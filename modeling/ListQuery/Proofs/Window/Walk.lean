import ListQuery.Envelope
import ListQuery.Proofs.Request.Page
import Mathlib.Algebra.Order.Floor.Div
import Mathlib.Data.List.Nodup

/-!
# Walking through the pages

A client starts at page one and moves on for as long as the envelope says that a page follows. In
exact arithmetic a page follows a window iff the list goes on after it (`Consistent.hasNext_iff`),
so each move goes to the window that starts where the last one ends (`next_of_lt`). By induction on
the walk every item is shown once, in order, and no move fails (`Walk.tiles`).
-/
namespace ListQuery

/-- The pages are as many as it takes, counted without wrapping. -/
theorem PageSummary.toNat_totalPages (summary : PageSummary) (positive : 1 ≤ summary.size.toNat) :
    summary.totalPages.toNat = summary.total.toNat ⌈/⌉ summary.size.toNat := by
  have nonzero : summary.size ≠ 0 := by
    intro zero
    simp [zero] at positive
  have few : summary.total.toNat ⌈/⌉ summary.size.toNat ≤ summary.total.toNat := by
    rw [ceilDiv_le_iff_le_mul positive]
    exact Nat.le_mul_of_pos_left _ positive
  have fits := Nat.lt_of_le_of_lt few summary.total.toNat_lt_size
  rw [Nat.ceilDiv_eq_add_pred_div] at fits ⊢
  rw [totalPages, if_neg nonzero, UInt64.toNat_ofNat_of_lt' fits]

theorem PageSummary.hasNext_iff (summary : PageSummary) (positive : 1 ≤ summary.size.toNat) :
    summary.hasNext = true ↔ summary.page.toNat * summary.size.toNat < summary.total.toNat := by
  rw [hasNext, decide_eq_true_iff, UInt64.lt_iff_toNat_lt, toNat_totalPages summary positive,
    ← Nat.not_le, ceilDiv_le_iff_le_mul positive, Nat.not_le, Nat.mul_comm]

namespace Window

variable {α : Type}

theorem Consistent.offset_add_limit {window : Window} (consistent : window.Consistent) :
    window.offset.toNat + window.limit.toNat = window.page.toNat * window.limit.toNat := by
  obtain ⟨before, counted⟩ := Nat.exists_eq_add_of_le consistent.page_positive
  rw [consistent.offset_eq, counted, Nat.add_sub_cancel_left, Nat.add_mul, Nat.one_mul,
    Nat.add_comm]

/-- The sum is not taken in words, where it can wrap. -/
theorem Consistent.hasNext_iff {window : Window} (consistent : window.Consistent)
    (results : List α) (total : UInt64) :
    (Envelope.ofWindow results total window).summary.hasNext = true ↔
      window.offset.toNat + window.limit.toNat < total.toNat := by
  have positive : 1 ≤ window.size.toNat := by
    rw [consistent.size_eq]
    exact consistent.limit_positive
  rw [PageSummary.hasNext_iff _ positive, consistent.offset_add_limit]
  simp only [Envelope.ofWindow, consistent.size_eq]

/-! ## Items -/

/-- The position after the last item that a window shows of a list. -/
def stop (total : UInt64) (window : Window) : Nat :=
  min (window.offset.toNat + window.limit.toNat) total.toNat

/-- The positions of the items that a window shows of a list. -/
def shown (total : UInt64) (window : Window) : List Nat :=
  List.range' window.offset.toNat (window.stop total - window.offset.toNat)

/-! ## Moves -/

/-- What comes after a window: another one, or a reason why there is none. -/
inductive Next where
  | window (next : Window)
  /-- The envelope says that no page follows. -/
  | listEnd
  /-- The page number is the largest word. -/
  | pagesUsedUp
  | refused (rejection : Rejection)

/-- One move of a client that reads pages of `limit` items of a list of `total` items. -/
def next (fetch : Window → List α) (total limit : UInt64) (window : Window) : Next :=
  if (Envelope.ofWindow (fetch window) total window).summary.hasNext then
    if window.page.toNat + 1 < UInt64.size then
      match ofPage (window.page + 1) limit with
      | .ok next => .window next
      | .error rejection => .refused rejection
    else .pagesUsedUp
  else .listEnd

theorem next_of_le {window : Window} (consistent : window.Consistent) (fetch : Window → List α)
    (total : UInt64) (last : total.toNat ≤ window.offset.toNat + window.limit.toNat) :
    window.next fetch total window.limit = .listEnd := by
  have stays : ¬ (Envelope.ofWindow (fetch window) total window).summary.hasNext = true := by
    rw [consistent.hasNext_iff]
    exact Nat.not_lt.mpr last
  rw [next, if_neg stays]

/-- While the list goes on, the next window starts where this one ends. -/
theorem next_of_lt {window : Window} (consistent : window.Consistent) (fetch : Window → List α)
    (total : UInt64) (more : window.offset.toNat + window.limit.toNat < total.toNat) :
    ∃ following : Window, window.next fetch total window.limit = .window following ∧
      following.Consistent ∧ following.limit = window.limit ∧
      following.offset.toNat = window.offset.toNat + window.limit.toNat := by
  have moves := (consistent.hasNext_iff (fetch window) total).mpr more
  have below := total.toNat_lt_size
  have counted := consistent.offset_add_limit
  have page_le := Nat.le_mul_of_pos_right window.page.toNat consistent.limit_positive
  have fits : window.page.toNat + 1 < UInt64.size := by omega
  have page_succ : (window.page + 1).toNat = window.page.toNat + 1 := by
    rw [UInt64.toNat_add]
    exact Nat.mod_eq_of_lt fits
  have nonzero : window.page + 1 ≠ 0 := by
    intro zero
    simp [zero] at page_succ
  have offset : (UInt64.ofNat (window.page.toNat * window.limit.toNat)).toNat =
      window.page.toNat * window.limit.toNat := UInt64.toNat_ofNat_of_lt' (by omega)
  let following : Window := ⟨window.page + 1, window.limit, window.limit,
    UInt64.ofNat (window.page.toNat * window.limit.toNat)⟩
  have follows : following.Consistent := by
    refine ⟨?_, consistent.limit_positive, rfl, ?_⟩
    · exact page_succ ▸ Nat.le_add_left 1 _
    · rw [show following.page.toNat = window.page.toNat + 1 from page_succ, Nat.add_sub_cancel]
      exact offset
  have made : ofPage (window.page + 1) window.limit = .ok following :=
    (ofPage_eq_ok_iff _ _ _).mpr ⟨follows, rfl, (if_neg nonzero).symm⟩
  refine ⟨following, ?_, follows, rfl, offset.trans counted.symm⟩
  rw [next, if_pos moves, if_pos fits, made]

/-! ## Walks -/

/-- The windows from a first one on, and what comes after the last of them. -/
inductive Walk (fetch : Window → List α) (total limit : UInt64) :
    Window → List Window → Next → Prop where
  | stop (window : Window) (ending : Next) (ends : window.next fetch total limit = ending)
      (stuck : ∀ following, ending ≠ .window following) :
      Walk fetch total limit window [window] ending
  | move (window following : Window) (rest : List Window) (ending : Next)
      (moved : window.next fetch total limit = .window following)
      (onward : Walk fetch total limit following rest ending) :
      Walk fetch total limit window (window :: rest) ending

/-- Every walk comes to an end, since the list left to show gets shorter. -/
theorem Walk.exists_of_consistent (fetch : Window → List α) (total : UInt64) {window : Window}
    (consistent : window.Consistent) :
    ∃ windows ending, Walk fetch total window.limit window windows ending := by
  induction left : total.toNat - window.offset.toNat using Nat.strong_induction_on
    generalizing window with
  | _ _ ih =>
    by_cases last : total.toNat ≤ window.offset.toNat + window.limit.toNat
    · exact ⟨[window], .listEnd, .stop window .listEnd (next_of_le consistent fetch total last)
        (fun _ => nofun)⟩
    · have more := Nat.lt_of_not_le last
      obtain ⟨following, moved, follows, sameLimit, adjacent⟩ :=
        next_of_lt consistent fetch total more
      have shorter : total.toNat - following.offset.toNat < total.toNat - window.offset.toNat := by
        have limit_positive := consistent.limit_positive
        omega
      obtain ⟨rest, ending, onward⟩ := ih _ (left ▸ shorter) follows rfl
      exact ⟨window :: rest, ending, .move window following rest ending moved
        (sameLimit ▸ onward)⟩

/-- A walk in exact arithmetic: each window starts where the one before it ends, up to the end of the list. -/
inductive Trail (total : UInt64) : Window → List Window → Prop where
  | last (window : Window) (reaches : total.toNat ≤ window.offset.toNat + window.limit.toNat) :
      Trail total window [window]
  | move (window following : Window) (rest : List Window)
      (more : window.offset.toNat + window.limit.toNat < total.toNat)
      (sameLimit : following.limit = window.limit)
      (adjacent : following.offset.toNat = window.offset.toNat + window.limit.toNat)
      (onward : Trail total following (following :: rest)) :
      Trail total window (window :: following :: rest)

theorem Walk.exists_eq_cons {fetch : Window → List α} {total limit : UInt64} {window : Window}
    {windows : List Window} {ending : Next} (walk : Walk fetch total limit window windows ending) :
    ∃ rest, windows = window :: rest := by
  cases walk with
  | stop => exact ⟨[], rfl⟩
  | move _ following rest => exact ⟨rest, rfl⟩

/-- A walk ends only at the end of the list, and no move of it fails. -/
theorem Walk.trail {fetch : Window → List α} {total limit : UInt64} {window : Window}
    {windows : List Window} {ending : Next} (walk : Walk fetch total limit window windows ending)
    (consistent : window.Consistent) (sameLimit : window.limit = limit) :
    ending = .listEnd ∧ Trail total window windows := by
  induction walk with
  | stop window ending ends stuck =>
    subst sameLimit
    by_cases last : total.toNat ≤ window.offset.toNat + window.limit.toNat
    · exact ⟨ends.symm.trans (next_of_le consistent fetch total last), .last window last⟩
    · obtain ⟨following, moved, _⟩ := next_of_lt consistent fetch total (Nat.lt_of_not_le last)
      exact absurd (ends.symm.trans moved) (stuck following)
  | move window following rest ending moved onward ih =>
    subst sameLimit
    by_cases last : total.toNat ≤ window.offset.toNat + window.limit.toNat
    · cases moved.symm.trans (next_of_le consistent fetch total last)
    · have more := Nat.lt_of_not_le last
      obtain ⟨following', moved', follows, sameLimit, adjacent⟩ :=
        next_of_lt consistent fetch total more
      cases moved.symm.trans moved'
      obtain ⟨ended, trail⟩ := ih follows sameLimit
      obtain ⟨rest, rfl⟩ := onward.exists_eq_cons
      exact ⟨ended, .move window following rest more sameLimit adjacent trail⟩

namespace Trail

variable {total : UInt64} {window : Window} {windows : List Window}

/-- One window for a list that it reaches the end of, and one more for each further limit. -/
theorem length_eq (trail : Trail total window windows) (positive : 1 ≤ window.limit.toNat) :
    windows.length = max 1 ((total.toNat - window.offset.toNat) ⌈/⌉ window.limit.toNat) := by
  induction trail with
  | last window reaches =>
    have once : (total.toNat - window.offset.toNat) ⌈/⌉ window.limit.toNat ≤ 1 := by
      rw [ceilDiv_le_iff_le_mul positive]
      omega
    rw [List.length_singleton, Nat.max_eq_left once]
  | move window following rest more sameLimit adjacent _ ih =>
    have left : total.toNat - window.offset.toNat =
        total.toNat - following.offset.toNat + window.limit.toNat := by omega
    have again : 1 ≤ (total.toNat - following.offset.toNat) ⌈/⌉ window.limit.toNat := by
      rw [Nat.one_le_iff_ne_zero, Ne, ← Nat.le_zero, ceilDiv_le_iff_le_mul positive]
      omega
    have counted := ih (sameLimit ▸ positive)
    rw [sameLimit, Nat.max_eq_right again] at counted
    have split : (total.toNat - window.offset.toNat) ⌈/⌉ window.limit.toNat =
        (total.toNat - following.offset.toNat) ⌈/⌉ window.limit.toNat + 1 := by
      rw [Nat.ceilDiv_eq_add_pred_div, Nat.ceilDiv_eq_add_pred_div, left,
        ← Nat.add_div_right _ positive]
      congr 1
      omega
    rw [List.length_cons, counted, split, Nat.max_eq_right (Nat.le_add_left 1 _)]

theorem adjacent (trail : Trail total window windows) :
    windows.IsChain fun earlier later => earlier.stop total = later.offset.toNat := by
  induction trail with
  | last => exact .singleton _
  | move window following rest more _ adjacent _ ih =>
    refine .cons_cons ?_ ih
    rw [stop, adjacent, Nat.min_eq_left (Nat.le_of_lt more)]

/-- The items from the first window on are shown in their order, each once. -/
theorem flatMap_shown (trail : Trail total window windows)
    (inside : window.offset.toNat ≤ total.toNat) :
    windows.flatMap (shown total) =
      List.range' window.offset.toNat (total.toNat - window.offset.toNat) := by
  induction trail with
  | last window reaches =>
    rw [List.flatMap_singleton, shown, stop, Nat.min_eq_right reaches]
  | move window following rest more _ adjacent _ ih =>
    have first : window.shown total =
        List.range' window.offset.toNat window.limit.toNat := by
      rw [shown, stop, Nat.min_eq_left (Nat.le_of_lt more), Nat.add_sub_cancel_left]
    have left : total.toNat - window.offset.toNat =
        window.limit.toNat + (total.toNat - following.offset.toNat) := by omega
    rw [List.flatMap_cons, ih (by omega), first, left, adjacent, List.range'_append_1]

end Trail

/-- The windows of a walk from page one, each of `limit` items of a list of `total` items. -/
structure Tiles (total limit : UInt64) (windows : List Window) : Prop where
  length_eq : windows.length = max 1 (total.toNat ⌈/⌉ limit.toNat)
  ordered : windows.Pairwise fun earlier later =>
    ∀ item ∈ earlier.shown total, ∀ item' ∈ later.shown total, item < item'
  disjoint : windows.Pairwise fun earlier later =>
    (earlier.shown total).Disjoint (later.shown total)
  adjacent : windows.IsChain fun earlier later => earlier.stop total = later.offset.toNat
  covered : windows.flatMap (shown total) = List.range total.toNat

theorem Trail.tiles {total limit : UInt64} {first : Window} {windows : List Window}
    (trail : Trail total first windows) (atStart : first.offset.toNat = 0)
    (sameLimit : first.limit = limit) (positive : 1 ≤ limit.toNat) :
    Tiles total limit windows := by
  have covered : windows.flatMap (shown total) = List.range total.toNat := by
    rw [trail.flatMap_shown (by omega), atStart, Nat.sub_zero, List.range_eq_range']
  have increasing := covered ▸ List.pairwise_lt_range (n := total.toNat)
  have once := covered ▸ List.nodup_range (n := total.toNat)
  refine ⟨?_, (List.pairwise_flatMap.mp increasing).2, (List.nodup_flatMap.mp once).2,
    trail.adjacent, covered⟩
  rw [trail.length_eq (sameLimit ▸ positive), atStart, Nat.sub_zero, sameLimit]

/-- The first page starts at the first item. -/
theorem exists_ofPage_one {limit : UInt64} (positive : 1 ≤ limit.toNat) :
    ∃ first : Window, ofPage 1 limit = .ok first ∧ first.Consistent ∧ first.limit = limit ∧
      first.offset.toNat = 0 := by
  have consistent : Consistent ⟨1, limit, limit, 0⟩ := ⟨Nat.le_refl 1, positive, rfl, by simp⟩
  exact ⟨⟨1, limit, limit, 0⟩, (ofPage_eq_ok_iff _ _ _).mpr ⟨consistent, rfl, rfl⟩, consistent,
    rfl, rfl⟩

end Window

/--
A client that follows `hasNext` from page one gets to the end of the list, whatever the pages hold.
No move of it fails, and its windows show every item once and in order. A window, visited or not,
has a page after it iff the list goes on after it.
-/
theorem Envelope.hasNext_visits_once {α : Type} :
    (∀ (fetch : Window → List α) (limit total : UInt64), 1 ≤ limit.toNat →
      ∃ first : Window, Window.ofPage 1 limit = .ok first ∧
        (∃ windows ending, Window.Walk fetch total limit first windows ending) ∧
        ∀ windows ending, Window.Walk fetch total limit first windows ending →
          ending = .listEnd ∧ Window.Tiles total limit windows) ∧
    (∀ (page limit : UInt64) (window : Window), Window.ofPage page limit = .ok window →
      ∀ (results : List α) (total : UInt64),
        (ofWindow results total window).summary.hasNext = true ↔
          window.offset.toNat + window.limit.toNat < total.toNat) := by
  refine ⟨?_, ?_⟩
  · intro fetch limit total positive
    obtain ⟨first, made, consistent, sameLimit, atStart⟩ := Window.exists_ofPage_one positive
    refine ⟨first, made, sameLimit ▸ Window.Walk.exists_of_consistent fetch total consistent, ?_⟩
    intro windows ending walk
    obtain ⟨ended, trail⟩ := walk.trail consistent sameLimit
    exact ⟨ended, trail.tiles atStart sameLimit positive⟩
  · intro page limit window made results total
    obtain ⟨consistent, _⟩ := (Window.ofPage_eq_ok_iff page limit window).mp made
    exact consistent.hasNext_iff results total

/-- Two pages whose limits together exceed a word. -/
theorem Envelope.hasNext_visits_once_word_limits :
    ∃ first : Window, Window.ofPage 1 0x8000000000000000 = .ok first ∧
      (∃ windows ending,
        Window.Walk (fun _ => ["item"]) 0xffffffffffffffff 0x8000000000000000 first windows ending ∧
        ending = .listEnd ∧ Window.Tiles 0xffffffffffffffff 0x8000000000000000 windows ∧
        windows.length = 2) ∧
      ∃ last : Window, Window.ofPage 2 0x8000000000000000 = .ok last ∧
        last.offset + last.limit = 0 ∧
        ((ofWindow ["item"] 0xffffffffffffffff last).summary.hasNext = true ↔
          last.offset.toNat + last.limit.toNat < 0xffffffffffffffff) := by
  have walks := (hasNext_visits_once (α := String)).1
  have law := (hasNext_visits_once (α := String)).2
  obtain ⟨first, made, ⟨windows, ending, walk⟩, each⟩ :=
    walks (fun _ => ["item"]) 0x8000000000000000 0xffffffffffffffff (by decide)
  obtain ⟨ended, tiles⟩ := each windows ending walk
  have count : max 1 ((0xffffffffffffffff : UInt64).toNat ⌈/⌉
      (0x8000000000000000 : UInt64).toNat) = 2 := by decide
  refine ⟨first, made, ⟨windows, ending, walk, ended, tiles, tiles.length_eq.trans count⟩, ?_⟩
  exact ⟨⟨2, 0x8000000000000000, 0x8000000000000000, 0x8000000000000000⟩, rfl, by decide,
    law 2 0x8000000000000000 _ rfl ["item"] 0xffffffffffffffff⟩

end ListQuery

import ListQuery.Window

/-! One page of results together with where it stands in the whole. -/
namespace ListQuery

structure PageSummary where
  total : UInt64
  page : UInt64
  size : UInt64
  deriving DecidableEq, Repr

namespace PageSummary

/-- A size of zero makes no pages. -/
def totalPages (summary : PageSummary) : UInt64 :=
  if summary.size = 0 then 0
  else UInt64.ofNat ((summary.total.toNat + summary.size.toNat - 1) / summary.size.toNat)

def hasNext (summary : PageSummary) : Bool :=
  summary.page < summary.totalPages

end PageSummary

structure Envelope (α : Type) where
  results : List α
  summary : PageSummary
  deriving DecidableEq, Repr

namespace Envelope

variable {α β : Type}

def ofWindow (results : List α) (total : UInt64) (window : Window) : Envelope α :=
  ⟨results, ⟨total, window.page, window.size⟩⟩

def map (f : α → β) (envelope : Envelope α) : Envelope β :=
  ⟨envelope.results.map f, envelope.summary⟩

end Envelope

end ListQuery

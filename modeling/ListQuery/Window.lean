import ListQuery.Rejection

/-! The window of a list that one page shows. -/
namespace ListQuery

structure Window where
  page : UInt64
  limit : UInt64
  size : UInt64
  offset : UInt64
  deriving DecidableEq, Repr

/-- Pages count from one, page zero being the first; the offset must fit in a word. -/
def Window.ofPage (page limit : UInt64) : Except Rejection Window :=
  if limit = 0 then .error (.limitInvalid "0")
  else
    let page := if page = 0 then 1 else page
    let offset := (page.toNat - 1) * limit.toNat
    if offset < UInt64.size then .ok ⟨page, limit, limit, UInt64.ofNat offset⟩
    else .error (.offsetOverflow page limit)

end ListQuery

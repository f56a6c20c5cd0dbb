import TableQuery.Request.Basic

/-!
# Page windows

The rows of one page. A request for rows from some offset gets the whole page that holds the row at
that offset, so the page may begin before it.
-/
namespace TableQuery

/-- A page, counted from zero, of a given size. The pages of requests are whole numbers, but a
window may be made of any two values. -/
structure PageWindow where
  index : Value
  size : Value

namespace PageWindow

def offset (p : PageWindow) : Except Fault Value := p.index.times p.size

def ofRequest (request : Request) : Option PageWindow :=
  if request.pageSize = 0 then none
  else some ⟨.int (request.offset / request.pageSize : Nat), .int request.pageSize⟩

end PageWindow
end TableQuery

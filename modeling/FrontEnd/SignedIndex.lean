/-!
# Signed indices

Where a script names an item of a sequence by its index, a negative index counts from
the end: the last item is also the one at -1.
-/

namespace FrontEnd

/-- The item at a signed index. -/
def itemAt? {α : Type} (items : Array α) (index : Int) : Option α :=
  let place := if index < 0 then items.size + index else index
  if place < 0 then none else items[place.toNat]?

end FrontEnd

import PathRouter.Sample.CodeHost

/-!
Tables with many literals below one node.
-/

namespace PathRouter.Sample.Siblings

/-- The names and patterns of `n` routes that differ in a number at the end. -/
def routes (n : Nat) : List (String × String) :=
  (List.range n).map fun i => ("item_" ++ toString i, "/items/item" ++ toString i)

def router (n : Nat) : Except BuildError (Router Nat) :=
  Router.ofList (numbered (routes n))

end PathRouter.Sample.Siblings

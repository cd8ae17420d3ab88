/-!
# Middleware

A middleware puts a layer around a handler. What a handler is does not matter here: `H` is the
type of handlers.

* `Middleware.compose` puts the layers of a group and of a single route around a handler.
-/

namespace RpcRoutes

/-- A named way to put a layer around a handler. -/
structure Middleware (H : Type) where
  name : String
  /-- The handler with the layer around it. -/
  wrap : H → H

/-- A handler inside its layers. The first layer of the group is outermost and its last one comes
next to the route's own layers, of which the last is outermost. -/
def Middleware.compose {H : Type} (handler : H) (group own : List (Middleware H)) : H :=
  group.foldr (fun m inner => m.wrap inner) (own.foldl (fun inner m => m.wrap inner) handler)

end RpcRoutes

import RpcRoutes.Path.Join

/-!
# Route keys

A route is known by its HTTP method and its full path pattern. Registries compare the key's
text, in which a blank separates the two.

* `RouteKey.text` is that text.
* `RouteError` lists why a route is refused, `RouteError.message?` how the refusal reads.
-/

namespace RpcRoutes

/-- An HTTP method with a full path pattern. -/
structure RouteKey where
  method : String
  pattern : String
  deriving DecidableEq, Repr

/-- Method and pattern with a blank between them. -/
def RouteKey.text (key : RouteKey) : String := key.method ++ " " ++ key.pattern

/-- Why a route is refused. -/
inductive RouteError where
  /-- A route of this text exists. -/
  | duplicateRoute (key : RouteKey)
  /-- The route has no HTTP method; the pattern is the one that was given. -/
  | emptyMethod (pattern : String)
  /-- The engine refuses the full pattern. Its reason is a text of its own and is not kept. -/
  | invalidPattern (pattern : String)
  /-- Nothing handles the method of the service. -/
  | missingHandler (service method : String)
  deriving DecidableEq, Repr

/-- The text of a route error. That of an invalid pattern ends in the reason of the engine, so it
is not known here. -/
def RouteError.message? : RouteError → Option String
  | .duplicateRoute key => some ("duplicate route: " ++ key.text)
  | .emptyMethod pattern => some ("route `" ++ pattern ++ "` has an empty HTTP method")
  | .invalidPattern _ => none
  | .missingHandler service method => some ("no handler for " ++ service ++ "." ++ method)

end RpcRoutes

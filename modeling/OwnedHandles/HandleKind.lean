/-!
# Kinds of resources

Every kind of resource that is handed out through a handle has a name, which stands in messages,
events and printed keys.
-/

namespace OwnedHandles

/-- A kind of resource, known to the other side by its name. -/
class HandleKind (α : Type) where
  kindName : String

export HandleKind (kindName)

end OwnedHandles

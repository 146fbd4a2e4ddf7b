import Viewsmith.View.Builtin
import Viewsmith.Table

namespace Viewsmith.View

structure Registry where
  partials : List (String × String)
deriving DecidableEq

namespace Registry

def empty : Registry := ⟨[]⟩

def register (r : Registry) (name body : String) : Registry :=
  ⟨Table.set name body r.partials⟩

def remove (r : Registry) (name : String) : Registry :=
  ⟨Table.erase name r.partials⟩

def lookup? (r : Registry) (name : String) : Option String :=
  Table.find? name r.partials

def contains (r : Registry) (name : String) : Bool :=
  (r.lookup? name).isSome

def size (r : Registry) : Nat := r.partials.length

def builtin : Registry :=
  Kind.all.foldl (fun r k => r.register k.partialName (builtinPartial k)) empty

theorem lookup?_register_self (r : Registry) (name body : String) :
    (r.register name body).lookup? name = some body :=
  Table.find?_set_self name body r.partials

theorem lookup?_register_of_ne (r : Registry) {name other : String} (body : String)
    (h : name ≠ other) : (r.register name body).lookup? other = r.lookup? other :=
  Table.find?_set_of_ne body r.partials h

theorem lookup?_remove_self (r : Registry) (name : String) :
    (r.remove name).lookup? name = none :=
  Table.find?_erase_self name r.partials

end Registry

end Viewsmith.View

namespace Viewsmith.View

inductive Kind
  | list
  | detail
  | create
  | update
  | delete
deriving DecidableEq

namespace Kind

/-- In the order in which a views module has them. -/
def all : List Kind := [.list, .detail, .create, .update, .delete]

def className : Kind → String
  | .list => "ListView"
  | .detail => "DetailView"
  | .create => "CreateView"
  | .update => "UpdateView"
  | .delete => "DeleteView"

def partialName (k : Kind) : String := k.className

def optionKey : Kind → String
  | .list => "list"
  | .detail => "detail"
  | .create => "create"
  | .update => "update"
  | .delete => "del"

def urlSuffix : Kind → String
  | .list => "list"
  | .detail => "detail"
  | .create => "create"
  | .update => "update"
  | .delete => "delete"

def usesForm : Kind → Bool
  | .create | .update => true
  | _ => false

theorem mem_all (k : Kind) : k ∈ all := by
  cases k <;> decide

theorem className_injective {k l : Kind} (h : k.className = l.className) : k = l := by
  revert h
  cases k <;> cases l <;> decide

end Kind

structure Options where
  list : Bool := false
  detail : Bool := false
  create : Bool := false
  update : Bool := false
  delete : Bool := false
deriving DecidableEq

namespace Options

def all : Options := ⟨true, true, true, true, true⟩

def has (o : Options) : Kind → Bool
  | .list => o.list
  | .detail => o.detail
  | .create => o.create
  | .update => o.update
  | .delete => o.delete

def set (o : Options) (on : Bool) : Kind → Options
  | .list => { o with list := on }
  | .detail => { o with detail := on }
  | .create => { o with create := on }
  | .update => { o with update := on }
  | .delete => { o with delete := on }

def enabled (o : Options) : List Kind := Kind.all.filter o.has

def isEmpty (o : Options) : Bool := o.enabled.isEmpty

def needsForm (o : Options) : Bool := o.enabled.any Kind.usesForm

theorem mem_enabled (o : Options) (k : Kind) : k ∈ o.enabled ↔ o.has k = true := by
  simp [enabled, Kind.mem_all]

end Options

end Viewsmith.View

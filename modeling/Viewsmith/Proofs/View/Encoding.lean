import Viewsmith.Proofs.Json.RoundTrip
import Viewsmith.View.Renderer

namespace Viewsmith.View

open Json (Value)

def optionFields (o : Options) : List (String × Value) :=
  [ ("create", .bool o.create), ("del", .bool o.delete), ("detail", .bool o.detail)
  , ("list", .bool o.list), ("update", .bool o.update) ]

def contextFields (c : Context) : List (String × Value) :=
  [ ("appName", .string c.appName), ("deleteSuccessUrl", .string c.deleteSuccessUrl)
  , ("includeForm", .bool c.includeForm), ("modelName", .string c.modelName)
  , ("options", .object (optionFields c.options))
  , ("paginateBy", .number (.whole c.paginateBy.toNat)), ("slugField", .string c.slugField)
  , ("viewImports", .string c.viewImports) ]

theorem toValue_eq (c : Context) : c.toValue = .object (contextFields c) := rfl

theorem decodeCount_toNat (n : UInt32) : decodeCount (.number (.whole n.toNat)) = .ok n := by
  have hn := n.toNat_lt
  have hpow : Int.pow 2 32 = 4294967296 := rfl
  rw [decodeCount, if_pos, Int.toNat_natCast, UInt32.ofNat_toNat]
  rw [hpow, Bool.and_eq_true, decide_eq_true_eq, decide_eq_true_eq]
  omega

theorem decodeOptions_optionFields (o : Options) : decodeOptions (optionFields o) = .ok o := rfl

theorem decodeContext_contextFields (c : Context) :
    decodeContext (contextFields c) (optionFields c.options) = .ok c := by
  have hcount : decodeField (contextFields c) "paginateBy" defaultPaginateBy decodeCount =
      .ok c.paginateBy := decodeCount_toNat c.paginateBy
  rw [decodeContext, decodeOptions_optionFields, hcount]
  rfl

theorem ofValue_object {fields options : List (String × Value)} {c : Context}
    (hrequired : requiredFields.find? (fun key => !isGiven fields key) = none)
    (hoptions : Table.find? "options" fields = some (.object options))
    (hflags : missingFlag? options = none) (hdecode : decodeContext fields options = .ok c) :
    Context.ofValue (.object fields) = .ok c := by
  simp only [Context.ofValue, hrequired, hoptions, hflags, hdecode]

theorem ofValue_toValue (c : Context) : Context.ofValue c.toValue = .ok c := by
  have hrequired : requiredFields.find? (fun key => !isGiven (contextFields c) key) = none := rfl
  have hflags : missingFlag? (optionFields c.options) = none := rfl
  rw [toValue_eq]
  exact ofValue_object hrequired rfl hflags (decodeContext_contextFields c)

theorem Renderer.renderValue_toValue (r : Renderer) (c : Context) :
    r.renderValue c.toValue = r.render c := by
  rw [renderValue, ofValue_toValue]

theorem isReadable_toValue (c : Context) : c.toValue.IsReadable Json.depthLimit := by
  have hkeys : ["appName", "deleteSuccessUrl", "includeForm", "modelName", "options", "paginateBy",
      "slugField", "viewImports"].Pairwise (· < ·) := by decide
  have hflags : ["create", "del", "detail", "list", "update"].Pairwise (· < ·) := by decide
  have hcount : (0 : Int) ≤ c.paginateBy.toNat ∧ (c.paginateBy.toNat : Int) < 2 ^ 64 := by
    have hn := c.paginateBy.toNat_lt
    omega
  have hoptions : (Value.object (optionFields c.options)).IsReadable 127 :=
    ⟨by decide, hflags, trivial, trivial, trivial, trivial, trivial, trivial⟩
  rw [toValue_eq]
  exact ⟨by decide, hkeys, trivial, trivial, trivial, trivial, hoptions, hcount, trivial, trivial, trivial⟩

end Viewsmith.View

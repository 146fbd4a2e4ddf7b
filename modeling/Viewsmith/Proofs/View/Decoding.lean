import Mathlib.Data.List.Find
import Mathlib.Data.String.Basic
import Viewsmith.Proofs.Failure
import Viewsmith.View.Context

namespace Viewsmith.View

open Json (Value)

inductive FieldType
  | text
  | flag
  | count

namespace FieldType

def accepts : FieldType → Value → Bool
  | .text, .string _ => true
  | .flag, .bool _ => true
  | .count, .number (.whole n) => 0 ≤ n && n < UInt32.size
  | _, _ => false

def mismatch : FieldType → Value → Mismatch
  | .text, v => .type v "a string"
  | .flag, v => .type v "a boolean"
  | .count, .number (.whole n) => .value (.number (.whole n)) "u32"
  | .count, v => .type v "u32"

end FieldType

/-- A field that contexts have, under its full name, with the value it has in an object. -/
structure KnownField where
  name : String
  type : FieldType
  value : Option Value

def knownFields (fields options : List (String × Value)) : List KnownField :=
  [ ⟨"appName", .text, Table.find? "appName" fields⟩
  , ⟨"deleteSuccessUrl", .text, Table.find? "deleteSuccessUrl" fields⟩
  , ⟨"includeForm", .flag, Table.find? "includeForm" fields⟩
  , ⟨"modelName", .text, Table.find? "modelName" fields⟩
  , ⟨"options.create", .flag, Table.find? "create" options⟩
  , ⟨"options.del", .flag, Table.find? "del" options⟩
  , ⟨"options.detail", .flag, Table.find? "detail" options⟩
  , ⟨"options.list", .flag, Table.find? "list" options⟩
  , ⟨"options.update", .flag, Table.find? "update" options⟩
  , ⟨"paginateBy", .count, Table.find? "paginateBy" fields⟩
  , ⟨"slugField", .text, Table.find? "slugField" fields⟩
  , ⟨"viewImports", .text, Table.find? "viewImports" fields⟩ ]

def KnownField.IllTyped (f : KnownField) (v : Value) : Prop :=
  f.value = some v ∧ f.type.accepts v = false

structure FirstIllTyped (known : List KnownField) (f : KnownField) (v : Value) : Prop where
  mem : f ∈ known
  illTyped : f.IllTyped v
  first : ∀ g ∈ known, ∀ w, g.IllTyped w → ¬ g.name < f.name

def IsMissing (fields : List (String × Value)) (key : String) : Prop :=
  Table.find? key fields = none ∨ Table.find? key fields = some .null

def FirstMissing (fields : List (String × Value)) (required : List String) (key : String) : Prop :=
  ∃ before after, required = before ++ key :: after ∧ IsMissing fields key ∧
    ∀ other ∈ before, ¬ IsMissing fields other

structure Holds (fields options : List (String × Value)) (c : Context) : Prop where
  appName : Table.find? "appName" fields = some (.string c.appName)
  modelName : Table.find? "modelName" fields = some (.string c.modelName)
  viewImports : Table.find? "viewImports" fields = some (.string c.viewImports)
  list : Table.find? "list" options = some (.bool c.options.list)
  detail : Table.find? "detail" options = some (.bool c.options.detail)
  create : Table.find? "create" options = some (.bool c.options.create)
  update : Table.find? "update" options = some (.bool c.options.update)
  delete : Table.find? "del" options = some (.bool c.options.delete)
  includeForm : (Table.find? "includeForm" fields).getD (.bool false) = .bool c.includeForm
  paginateBy : (Table.find? "paginateBy" fields).getD (.number (.whole 5)) =
    .number (.whole c.paginateBy.toNat)
  slugField : (Table.find? "slugField" fields).getD (.string "slug") = .string c.slugField
  deleteSuccessUrl : (Table.find? "deleteSuccessUrl" fields).getD (.string "'/'") =
    .string c.deleteSuccessUrl

structure HasOptions (fields options : List (String × Value)) : Prop where
  given : ∀ key ∈ ["appName", "modelName", "viewImports", "options"], ¬ IsMissing fields key
  found : Table.find? "options" fields = some (.object options)

structure IsComplete (fields options : List (String × Value)) : Prop
    extends HasOptions fields options where
  flags : ∀ key ∈ ["list", "detail", "create", "update", "del"], ¬ IsMissing options key

/-- What a JSON value is decoded to. -/
inductive Decides : Value → Except ContextError Context → Prop
  | notObject {v : Value} (h : ∀ fields, v ≠ .object fields) :
      Decides v (.error (.missing "appName"))
  | missingField {fields : List (String × Value)} {key : String}
      (h : FirstMissing fields ["appName", "modelName", "viewImports", "options"] key) :
      Decides (.object fields) (.error (.missing key))
  | wrongOptions {fields : List (String × Value)} {v : Value}
      (hgiven : ∀ key ∈ ["appName", "modelName", "viewImports", "options"], ¬ IsMissing fields key)
      (hoptions : Table.find? "options" fields = some v) (h : ∀ options, v ≠ .object options) :
      Decides (.object fields) (.error (.mismatch (.type v "a map")))
  | missingFlag {fields options : List (String × Value)} {key : String}
      (hoptions : HasOptions fields options)
      (h : FirstMissing options ["list", "detail", "create", "update", "del"] key) :
      Decides (.object fields) (.error (.missing ("options." ++ key)))
  | illTyped {fields options : List (String × Value)} {f : KnownField} {v : Value}
      (hcomplete : IsComplete fields options)
      (h : FirstIllTyped (knownFields fields options) f v) :
      Decides (.object fields) (.error (.mismatch (f.type.mismatch v)))
  | context {fields options : List (String × Value)} {c : Context}
      (hcomplete : IsComplete fields options)
      (htyped : ∀ f ∈ knownFields fields options, ∀ v, ¬ f.IllTyped v)
      (h : Holds fields options c) : Decides (.object fields) (.ok c)

section

variable {fields options : List (String × Value)} {key : String}

theorem not_isGiven_iff : (!isGiven fields key) = true ↔ IsMissing fields key := by
  unfold isGiven IsMissing
  cases Table.find? key fields with
  | none => simp
  | some v => cases v <;> simp [Value.isNull]

theorem find?_not_isGiven_eq_some_iff (required : List String) :
    required.find? (fun key => !isGiven fields key) = some key ↔
      FirstMissing fields required key := by
  simp only [List.find?_eq_some_iff_append, FirstMissing, not_isGiven_iff]
  constructor
  · rintro ⟨hmissing, before, after, hsplit, hbefore⟩
    refine ⟨before, after, hsplit, hmissing, fun other hother => ?_⟩
    rw [← not_isGiven_iff, Bool.not_eq_true]
    exact Bool.not_eq_true' _ ▸ hbefore other hother
  · rintro ⟨before, after, hsplit, hmissing, hbefore⟩
    refine ⟨hmissing, before, after, hsplit, fun other hother => ?_⟩
    have hgiven := hbefore other hother
    rw [← not_isGiven_iff, Bool.not_eq_true] at hgiven
    rw [hgiven]
    rfl

theorem find?_not_isGiven_eq_none_iff (required : List String) :
    required.find? (fun key => !isGiven fields key) = none ↔
      ∀ key ∈ required, ¬ IsMissing fields key := by
  simp only [List.find?_eq_none, not_isGiven_iff]

theorem missingFlag?_eq_some_iff {flag : String} : missingFlag? options = some flag ↔
    ∃ key, FirstMissing options ["list", "detail", "create", "update", "del"] key ∧
      flag = "options." ++ key := by
  have hkeys : ["list", "detail", "create", "update", "del"] = Kind.all.map Kind.optionKey := rfl
  rw [hkeys, missingFlag?]
  simp only [← find?_not_isGiven_eq_some_iff, List.find?_map, Option.map_eq_some_iff,
    Function.comp_def]
  constructor
  · rintro ⟨k, hk, rfl⟩
    exact ⟨_, ⟨k, hk, rfl⟩, rfl⟩
  · rintro ⟨_, ⟨k, hk, rfl⟩, rfl⟩
    exact ⟨k, hk, rfl⟩

theorem missingFlag?_eq_none_iff : missingFlag? options = none ↔
    ∀ key ∈ ["list", "detail", "create", "update", "del"], ¬ IsMissing options key := by
  have hkeys : ["list", "detail", "create", "update", "del"] = Kind.all.map Kind.optionKey := rfl
  rw [hkeys, missingFlag?, ← find?_not_isGiven_eq_none_iff, List.find?_map, Option.map_eq_none_iff,
    Option.map_eq_none_iff]
  rfl

end

def KnownField.mismatch? (f : KnownField) : Option Mismatch :=
  f.value.bind fun v => if f.type.accepts v then none else some (f.type.mismatch v)

theorem KnownField.mismatch?_eq_some_iff {f : KnownField} {m : Mismatch} :
    f.mismatch? = some m ↔ ∃ v, f.IllTyped v ∧ m = f.type.mismatch v := by
  unfold mismatch? IllTyped
  cases f.value with
  | none => simp
  | some v =>
      simp only [Option.bind_some, Option.some.injEq]
      constructor
      · intro h
        split at h
        · cases h
        · rename_i hv
          exact ⟨v, ⟨rfl, Bool.not_eq_true _ ▸ hv⟩, (Option.some.inj h).symm⟩
      · rintro ⟨_, ⟨rfl, hv⟩, rfl⟩
        rw [hv]
        rfl

theorem KnownField.mismatch?_eq_none_iff {f : KnownField} :
    f.mismatch? = none ↔ ∀ v, ¬ f.IllTyped v := by
  rw [Option.eq_none_iff_forall_ne_some]
  constructor
  · intro h v hv
    exact h _ (mismatch?_eq_some_iff.mpr ⟨v, hv, rfl⟩)
  · rintro h m hm
    obtain ⟨v, hv, _⟩ := mismatch?_eq_some_iff.mp hm
    exact h v hv

/-- In a list in the order of names, the first ill-typed field is the one that is met first. -/
theorem findSome?_mismatch?_eq_some_iff {known : List KnownField} {m : Mismatch}
    (hsorted : (known.map KnownField.name).Pairwise (· < ·)) :
    known.findSome? KnownField.mismatch? = some m ↔
      ∃ f v, FirstIllTyped known f v ∧ m = f.type.mismatch v := by
  rw [List.findSome?_eq_some_iff]
  constructor
  · rintro ⟨before, f, after, rfl, hf, hbefore⟩
    obtain ⟨v, hv, rfl⟩ := KnownField.mismatch?_eq_some_iff.mp hf
    refine ⟨f, v, ⟨by simp, hv, fun g hg w hw hlt => ?_⟩, rfl⟩
    rw [List.map_append, List.map_cons, List.pairwise_append, List.pairwise_cons] at hsorted
    rcases List.mem_append.mp hg with hg | hg
    · exact KnownField.mismatch?_eq_none_iff.mp (hbefore g hg) w hw
    · rcases List.mem_cons.mp hg with rfl | hg
      · exact lt_irrefl _ hlt
      · exact lt_asymm hlt (hsorted.2.1.1 _ (List.mem_map_of_mem hg))
  · rintro ⟨f, v, ⟨hmem, hv, hfirst⟩, rfl⟩
    obtain ⟨before, after, rfl⟩ := List.append_of_mem hmem
    refine ⟨before, f, after, rfl, KnownField.mismatch?_eq_some_iff.mpr ⟨v, hv, rfl⟩, ?_⟩
    intro g hg
    refine KnownField.mismatch?_eq_none_iff.mpr fun w hw => ?_
    rw [List.map_append, List.map_cons, List.pairwise_append] at hsorted
    exact hfirst g (List.mem_append_left _ hg) w hw
      (hsorted.2.2 _ (List.mem_map_of_mem hg) _ List.mem_cons_self)

theorem knownFields_sorted (fields options : List (String × Value)) :
    ((knownFields fields options).map KnownField.name).Pairwise (· < ·) := by
  have hnames : (knownFields fields options).map KnownField.name =
      ["appName", "deleteSuccessUrl", "includeForm", "modelName", "options.create", "options.del",
        "options.detail", "options.list", "options.update", "paginateBy", "slugField",
        "viewImports"] := rfl
  rw [hnames]
  decide

section

variable {α β : Type}

/-- A decoding fails with the first mismatch of some fields, and succeeds if they have none. -/
def Reports (known : List KnownField) (r : Except Mismatch α) : Prop :=
  known.findSome? KnownField.mismatch? =
    match r with
    | .ok _ => none
    | .error m => some m

theorem Reports.bind {known more : List KnownField} {r : Except Mismatch α}
    {f : α → Except Mismatch β} (h : Reports known r) (hf : ∀ a, Reports more (f a)) :
    Reports (known ++ more) (r >>= f) := by
  unfold Reports at h ⊢
  rw [List.findSome?_append, h]
  cases r with
  | ok a => exact hf a
  | error m => rfl

theorem reports_ok (a : α) : Reports [] (.ok a) := rfl

/-- A type is decoded: exactly the encoded values are accepted, and the others are told. -/
structure DecodesType (type : FieldType) (decode : Value → Except Mismatch α) (encode : α → Value) :
    Prop where
  ok : ∀ v a, decode v = .ok a ↔ v = encode a
  accepts : ∀ a, type.accepts (encode a) = true
  error : ∀ v m, decode v = .error m → type.accepts v = false ∧ m = type.mismatch v

theorem decodesType_text : DecodesType .text decodeString Value.string where
  ok v a := by cases v <;> simp [decodeString]
  accepts _ := rfl
  error v m h := by cases v <;> simp_all [decodeString, FieldType.accepts, FieldType.mismatch]

theorem decodesType_flag : DecodesType .flag decodeBool Value.bool where
  ok v a := by cases v <;> simp [decodeBool]
  accepts _ := rfl
  error v m h := by cases v <;> simp_all [decodeBool, FieldType.accepts, FieldType.mismatch]

theorem decodeCount_whole (n : Int) : decodeCount (.number (.whole n)) =
    if 0 ≤ n ∧ n < UInt32.size then .ok (UInt32.ofNat n.toNat)
    else .error (.value (.number (.whole n)) "u32") := by
  have hpow : Int.pow 2 32 = UInt32.size := rfl
  simp only [decodeCount, hpow, Bool.and_eq_true, decide_eq_true_eq]

theorem decodesType_count : DecodesType .count decodeCount fun n => .number (.whole n.toNat) where
  ok v a := by
    match v with
    | .number (.whole n) =>
        have ha := a.toNat_lt_size
        rw [decodeCount_whole]
        by_cases hn : 0 ≤ n ∧ n < UInt32.size
        · rw [if_pos hn, Except.ok.injEq, ← UInt32.toNat_inj, UInt32.toNat_ofNat_of_lt' (by omega)]
          simp only [Value.number.injEq, Json.Numeral.whole.injEq]
          omega
        · rw [if_neg hn]
          simp only [reduceCtorEq, Value.number.injEq, Json.Numeral.whole.injEq, false_iff]
          omega
    | .number (.double x) => simp [decodeCount]
    | .null | .bool _ | .string _ | .array _ | .object _ => simp [decodeCount]
  accepts a := by
    have ha := a.toNat_lt_size
    simp only [FieldType.accepts, Bool.and_eq_true, decide_eq_true_eq]
    omega
  error v m h := by
    match v with
    | .number (.whole n) =>
        rw [decodeCount_whole] at h
        split at h
        · cases h
        · rename_i hn
          cases h
          refine ⟨?_, rfl⟩
          simpa [FieldType.accepts] using hn
    | .number (.double x) => exact ⟨rfl, (Except.error.inj h).symm⟩
    | .null | .bool _ | .string _ | .array _ | .object _ =>
        exact ⟨rfl, (Except.error.inj h).symm⟩

variable {type : FieldType} {decode : Value → Except Mismatch α} {encode : α → Value}
  (hdecode : DecodesType type decode encode)

include hdecode

theorem DecodesType.reports (name key : String) (fields : List (String × Value)) (default : α) :
    Reports [⟨name, type, Table.find? key fields⟩] (decodeField fields key default decode) := by
  unfold Reports decodeField
  cases Table.find? key fields with
  | none => rfl
  | some v =>
      cases hv : decode v with
      | ok a =>
          have ha := hdecode.accepts a
          rw [← (hdecode.ok v a).mp hv] at ha
          simp [KnownField.mismatch?, ha, hv]
      | error m =>
          obtain ⟨hrejected, rfl⟩ := hdecode.error v m hv
          simp [KnownField.mismatch?, hrejected, hv]

theorem DecodesType.decodeField_eq_ok_iff (fields : List (String × Value)) (key : String)
    (default a : α) : decodeField fields key default decode = .ok a ↔
      (Table.find? key fields).getD (encode default) = encode a := by
  unfold decodeField
  cases Table.find? key fields with
  | none =>
      rw [Option.getD_none, ← hdecode.ok, (hdecode.ok _ default).mpr rfl]
  | some v => exact hdecode.ok v a

end

section

variable (fields options : List (String × Value))

/-- The fields are decoded in the order of their names, so the first ill-typed one is told. -/
theorem reports_decodeContext :
    Reports (knownFields fields options) (decodeContext fields options) := by
  have htext := fun key => decodesType_text.reports key key fields
  have hflag := fun key => decodesType_flag.reports ("options." ++ key) key options
  have hoptions : Reports
      [ ⟨"options.create", .flag, Table.find? "create" options⟩
      , ⟨"options.del", .flag, Table.find? "del" options⟩
      , ⟨"options.detail", .flag, Table.find? "detail" options⟩
      , ⟨"options.list", .flag, Table.find? "list" options⟩
      , ⟨"options.update", .flag, Table.find? "update" options⟩ ] (decodeOptions options) :=
    (hflag "create" false).bind fun _ => (hflag "del" false).bind fun _ =>
      (hflag "detail" false).bind fun _ => (hflag "list" false).bind fun _ =>
        (hflag "update" false).bind fun _ => reports_ok _
  exact (htext "appName" "").bind fun _ =>
    (htext "deleteSuccessUrl" defaultDeleteSuccessUrl).bind fun _ =>
    (decodesType_flag.reports "includeForm" "includeForm" fields false).bind fun _ =>
    (htext "modelName" "").bind fun _ => hoptions.bind fun _ =>
    (decodesType_count.reports "paginateBy" "paginateBy" fields defaultPaginateBy).bind fun _ =>
    (htext "slugField" defaultSlugField).bind fun _ =>
    (htext "viewImports" "").bind fun _ => reports_ok _

variable {fields options}

theorem decodeContext_eq_error_iff {m : Mismatch} : decodeContext fields options = .error m ↔
    ∃ f v, FirstIllTyped (knownFields fields options) f v ∧ m = f.type.mismatch v := by
  have hreports := reports_decodeContext fields options
  unfold Reports at hreports
  rw [← findSome?_mismatch?_eq_some_iff (knownFields_sorted _ _), hreports]
  cases decodeContext fields options with
  | ok c => simp
  | error e => simp

theorem not_illTyped_of_decodeContext {c : Context} (h : decodeContext fields options = .ok c) :
    ∀ f ∈ knownFields fields options, ∀ v, ¬ f.IllTyped v := by
  have hreports := reports_decodeContext fields options
  unfold Reports at hreports
  rw [h] at hreports
  intro f hf
  exact KnownField.mismatch?_eq_none_iff.mp (List.findSome?_eq_none_iff.mp hreports f hf)

theorem find?_eq_some_of_given {key : String} {v default : Value} (h : ¬ IsMissing fields key)
    (hv : (Table.find? key fields).getD default = v) : Table.find? key fields = some v := by
  cases hfind : Table.find? key fields with
  | none => exact absurd (.inl hfind) h
  | some w =>
      rw [hfind, Option.getD_some] at hv
      rw [hv]

theorem decodeOptions_eq_ok_iff (h : ∀ key ∈ ["list", "detail", "create", "update", "del"],
    ¬ IsMissing options key) (o : Options) : decodeOptions options = .ok o ↔
      Table.find? "list" options = some (.bool o.list) ∧
      Table.find? "detail" options = some (.bool o.detail) ∧
      Table.find? "create" options = some (.bool o.create) ∧
      Table.find? "update" options = some (.bool o.update) ∧
      Table.find? "del" options = some (.bool o.delete) := by
  simp only [decodeOptions, bind_eq_ok_iff, decodesType_flag.decodeField_eq_ok_iff]
  constructor
  · rintro ⟨create, hcreate, delete, hdelete, detail, hdetail, list, hlist, update, hupdate, ho⟩
    cases ho
    have given {key : String} {b : Bool}
        (hkey : key ∈ ["list", "detail", "create", "update", "del"])
        (hb : (Table.find? key options).getD (.bool false) = .bool b) :
        Table.find? key options = some (.bool b) := find?_eq_some_of_given (h key hkey) hb
    exact ⟨given (by simp) hlist, given (by simp) hdetail, given (by simp) hcreate,
      given (by simp) hupdate, given (by simp) hdelete⟩
  · rintro ⟨hlist, hdetail, hcreate, hupdate, hdelete⟩
    simp only [hlist, hdetail, hcreate, hupdate, hdelete, Option.getD_some]
    exact ⟨_, rfl, _, rfl, _, rfl, _, rfl, _, rfl, rfl⟩

theorem decodeContext_eq_ok_iff (h : IsComplete fields options) (c : Context) :
    decodeContext fields options = .ok c ↔ Holds fields options c := by
  simp only [decodeContext, bind_eq_ok_iff, decodesType_text.decodeField_eq_ok_iff,
    decodesType_flag.decodeField_eq_ok_iff, decodesType_count.decodeField_eq_ok_iff,
    decodeOptions_eq_ok_iff h.flags]
  constructor
  · rintro ⟨appName, happ, url, hurl, form, hform, modelName, hmodel, o, ⟨hlist, hdetail, hcreate,
      hupdate, hdelete⟩, paginateBy, hpaginate, slugField, hslug, viewImports, himports, hc⟩
    cases hc
    have given {key s : String} (hkey : key ∈ ["appName", "modelName", "viewImports", "options"])
        (hs : (Table.find? key fields).getD (.string "") = .string s) :
        Table.find? key fields = some (.string s) := find?_eq_some_of_given (h.given key hkey) hs
    exact ⟨given (by simp) happ, given (by simp) hmodel, given (by simp) himports, hlist, hdetail,
      hcreate, hupdate, hdelete, hform, hpaginate, hslug, hurl⟩
  · intro hc
    exact ⟨_, by rw [hc.appName, Option.getD_some], _, hc.deleteSuccessUrl, _, hc.includeForm, _,
      by rw [hc.modelName, Option.getD_some], _,
      ⟨hc.list, hc.detail, hc.create, hc.update, hc.delete⟩, _, hc.paginateBy, _, hc.slugField, _,
      by rw [hc.viewImports, Option.getD_some], rfl⟩

end

namespace Decides

theorem ofValue_eq {v : Value} {r : Except ContextError Context} (h : Decides v r) :
    Context.ofValue v = r := by
  cases h with
  | notObject h =>
      cases v with
      | object fields => exact absurd rfl (h fields)
      | _ => rfl
  | missingField h =>
      simp only [Context.ofValue, requiredFields, (find?_not_isGiven_eq_some_iff _).mpr h]
  | wrongOptions hgiven hoptions h =>
      simp only [Context.ofValue, requiredFields, (find?_not_isGiven_eq_none_iff _).mpr hgiven,
        hoptions]
  | missingFlag hoptions h =>
      simp only [Context.ofValue, requiredFields, (find?_not_isGiven_eq_none_iff _).mpr hoptions.given,
        hoptions.found, missingFlag?_eq_some_iff.mpr ⟨_, h, rfl⟩]
  | illTyped hcomplete h =>
      simp only [Context.ofValue, requiredFields,
        (find?_not_isGiven_eq_none_iff _).mpr hcomplete.given, hcomplete.found,
        missingFlag?_eq_none_iff.mpr hcomplete.flags,
        decodeContext_eq_error_iff.mpr ⟨_, _, h, rfl⟩]
  | context hcomplete _ h =>
      simp only [Context.ofValue, requiredFields,
        (find?_not_isGiven_eq_none_iff _).mpr hcomplete.given, hcomplete.found,
        missingFlag?_eq_none_iff.mpr hcomplete.flags, (decodeContext_eq_ok_iff hcomplete _).mpr h]

theorem exists_of_object (fields : List (String × Value)) : ∃ r, Decides (.object fields) r := by
  cases hrequired : ["appName", "modelName", "viewImports", "options"].find?
      (fun key => !isGiven fields key) with
  | some key => exact ⟨_, .missingField ((find?_not_isGiven_eq_some_iff _).mp hrequired)⟩
  | none =>
      have hgiven := (find?_not_isGiven_eq_none_iff _).mp hrequired
      cases hfound : Table.find? "options" fields with
      | none => exact absurd (.inl hfound) (hgiven "options" (by simp))
      | some v =>
          by_cases hobject : ∃ options, v = .object options
          · obtain ⟨options, rfl⟩ := hobject
            cases hflag : missingFlag? options with
            | some flag =>
                obtain ⟨key, hkey, _⟩ := missingFlag?_eq_some_iff.mp hflag
                exact ⟨_, .missingFlag ⟨hgiven, hfound⟩ hkey⟩
            | none =>
                have hcomplete : IsComplete fields options :=
                  ⟨⟨hgiven, hfound⟩, missingFlag?_eq_none_iff.mp hflag⟩
                cases hdecode : decodeContext fields options with
                | error m =>
                    obtain ⟨f, v, hfirst, _⟩ := decodeContext_eq_error_iff.mp hdecode
                    exact ⟨_, .illTyped hcomplete hfirst⟩
                | ok c =>
                    exact ⟨_, .context hcomplete (not_illTyped_of_decodeContext hdecode)
                      ((decodeContext_eq_ok_iff hcomplete c).mp hdecode)⟩
          · exact ⟨_, .wrongOptions hgiven hfound fun options h => hobject ⟨options, h⟩⟩

theorem exists_decides (v : Value) : ∃ r, Decides v r := by
  cases v with
  | object fields => exact exists_of_object fields
  | _ => exact ⟨_, .notObject nofun⟩

end Decides

/-- Two objects that differ in unknown keys only, their options included. -/
structure SameKnown (fields fields' : List (String × Value)) : Prop where
  same : ∀ key ∈ ["appName", "deleteSuccessUrl", "includeForm", "modelName", "paginateBy",
    "slugField", "viewImports"], Table.find? key fields' = Table.find? key fields
  options : Table.find? "options" fields' = Table.find? "options" fields ∨
    ∃ options options', Table.find? "options" fields = some (.object options) ∧
      Table.find? "options" fields' = some (.object options') ∧
      ∀ key ∈ ["create", "del", "detail", "list", "update"],
        Table.find? key options' = Table.find? key options

section

variable {fields fields' options options' : List (String × Value)}

theorem isGiven_congr {key : String} (h : Table.find? key fields' = Table.find? key fields) :
    isGiven fields' key = isGiven fields key := by
  rw [isGiven, isGiven, h]

theorem missingFlag?_congr (h : ∀ key ∈ ["create", "del", "detail", "list", "update"],
    Table.find? key options' = Table.find? key options) :
    missingFlag? options' = missingFlag? options := by
  have hgiven (k : Kind) : isGiven options' k.optionKey = isGiven options k.optionKey :=
    isGiven_congr (h k.optionKey (by cases k <;> decide))
  simp only [missingFlag?, hgiven]

theorem decodeField_congr {α : Type} {key : String} {default : α}
    {decode : Value → Except Mismatch α}
    (h : Table.find? key fields' = Table.find? key fields) :
    decodeField fields' key default decode = decodeField fields key default decode := by
  rw [decodeField, decodeField, h]

theorem decodeContext_congr (h : ∀ key ∈ ["appName", "deleteSuccessUrl", "includeForm", "modelName",
      "paginateBy", "slugField", "viewImports"], Table.find? key fields' = Table.find? key fields)
    (hflags : ∀ key ∈ ["create", "del", "detail", "list", "update"],
      Table.find? key options' = Table.find? key options) :
    decodeContext fields' options' = decodeContext fields options := by
  simp only [List.forall_mem_cons] at h hflags
  obtain ⟨happ, hurl, hform, hmodel, hpaginate, hslug, himports, _⟩ := h
  obtain ⟨hcreate, hdelete, hdetail, hlist, hupdate, _⟩ := hflags
  simp only [decodeContext, decodeOptions, decodeField_congr happ, decodeField_congr hurl,
    decodeField_congr hform, decodeField_congr hmodel, decodeField_congr hpaginate,
    decodeField_congr hslug, decodeField_congr himports, decodeField_congr hcreate,
    decodeField_congr hdelete, decodeField_congr hdetail, decodeField_congr hlist,
    decodeField_congr hupdate]

theorem SameKnown.isGiven_eq (h : SameKnown fields fields') :
    ∀ key ∈ requiredFields, isGiven fields' key = isGiven fields key := by
  have hsame := h.same
  simp only [List.forall_mem_cons] at hsame
  obtain ⟨happ, _, _, hmodel, _, _, himports, _⟩ := hsame
  simp only [requiredFields, List.forall_mem_cons]
  refine ⟨isGiven_congr happ, isGiven_congr hmodel, isGiven_congr himports, ?_, nofun⟩
  rcases h.options with hsame | ⟨options, options', hfound, hfound', _⟩
  · exact isGiven_congr hsame
  · rw [isGiven, isGiven, hfound, hfound']
    rfl

theorem SameKnown.ofValue_eq (h : SameKnown fields fields') :
    Context.ofValue (.object fields') = Context.ofValue (.object fields) := by
  have hrequired : requiredFields.find? (fun key => !isGiven fields' key) =
      requiredFields.find? (fun key => !isGiven fields key) :=
    List.find?_congr fun key hkey => by rw [h.isGiven_eq key hkey]
  simp only [Context.ofValue, hrequired]
  cases requiredFields.find? (fun key => !isGiven fields key) with
  | some key => rfl
  | none =>
      rcases h.options with hsame | ⟨options, options', hfound, hfound', hflags⟩
      · have hdecode (options : List (String × Value)) :
            decodeContext fields' options = decodeContext fields options :=
          decodeContext_congr h.same fun _ _ => rfl
        simp only [hsame, hdecode]
      · simp only [hfound, hfound', missingFlag?_congr hflags, decodeContext_congr h.same hflags]

end

/-- Every JSON value is decided by the first case that it comes under: not an object, a required field
missing, options of the wrong type, a flag missing, a field of the wrong type, and a context. Keys that
are not known have no influence. -/
theorem ofValue_decided (v : Value) :
    (∀ r, Context.ofValue v = r ↔ Decides v r) ∧
      ∀ fields fields', v = .object fields → SameKnown fields fields' →
        Context.ofValue (.object fields') = Context.ofValue v := by
  refine ⟨fun r => ⟨?_, Decides.ofValue_eq⟩, ?_⟩
  · rintro rfl
    obtain ⟨r, hr⟩ := Decides.exists_decides v
    rw [hr.ofValue_eq]
    exact hr
  · rintro fields fields' rfl hknown
    exact hknown.ofValue_eq

/-- A flag that is missing is told before an app of the wrong type. -/
example : Context.ofValue (.object [("appName", .bool true), ("modelName", .string "Post"),
    ("options", .object [("list", .null)]), ("viewImports", .string "")]) =
      .error (.missing "options.list") := rfl

end Viewsmith.View

import Viewsmith.Proofs.Template.Words
import Viewsmith.Template.Assemble

namespace Viewsmith.Template

open Json (strip?)

inductive Piece
  | text (s : List Char)
  | tag (inside : List Char) (t : Tag)

namespace Piece

def source : Piece → List Char
  | .text s => s
  | .tag inside _ => '\x7b' :: '\x7b' :: (inside ++ closed [])

/-- Text without braces and backslashes, or a tag that is read from its inside. -/
def Valid : Piece → Prop
  | .text s => s ≠ [] ∧ ∀ c ∈ s, c ≠ '\x7b' ∧ c ≠ '\\'
  | .tag inside t => ∀ rest, readTag (inside ++ closed rest) = some (⟨t, false, false⟩, rest)

def isTag : Piece → Bool
  | .text _ => false
  | .tag _ _ => true

end Piece

def sourceOf (ps : List Piece) : List Char := ps.flatMap Piece.source

def itemsOf : List Char → List Piece → List Item
  | _, [] => []
  | before, .text s :: ps =>
      (if s.all Json.isBlank then .gap s else .text s) :: itemsOf (s.reverse ++ before) ps
  | before, .tag inside t :: ps =>
      .mark ⟨t, false, false⟩ (placeOf before (sourceOf ps)) ::
        itemsOf ((Piece.tag inside t).source.reverse ++ before) ps

def Separated : List Piece → Prop
  | [] => True
  | p :: ps => (p.isTag = true ∨ ∀ q, ps.head? = some q → q.isTag = true) ∧ Separated ps

instance : (ps : List Piece) → Decidable (Separated ps)
  | [] => isTrue trivial
  | p :: ps =>
      have : Decidable (Separated ps) := instDecidableSeparated ps
      have : Decidable (∀ q, ps.head? = some q → q.isTag = true) :=
        match ps with
        | [] => isTrue (by simp)
        | q :: _ => decidable_of_iff (q.isTag = true) (by simp)
      inferInstanceAs (Decidable ((p.isTag = true ∨ ∀ q, ps.head? = some q → q.isTag = true) ∧ _))

theorem opens_two_cons {c : Char} (h : c ≠ '\x7b') (rest : List Char) :
    opens 2 (c :: rest) = false := by
  simp [opens, braces, List.replicate, strip?, Ne.symm h]

theorem readText_piece {s rest : List Char} (hs : ∀ c ∈ s, c ≠ '\x7b' ∧ c ≠ '\\')
    (hrest : rest = [] ∨ opens 2 rest = true) : readText 2 0 (s ++ rest) = (s, rest) := by
  induction s with
  | nil =>
      rcases hrest with rfl | hopens
      · rfl
      · cases rest with
        | nil => rfl
        | cons c rest =>
            have hc : c ≠ '\\' := by
              rintro rfl
              rw [opens_two_cons (by decide)] at hopens
              cases hopens
            rw [List.nil_append, readText, if_neg hc, if_pos hopens]
  | cons c s ih =>
      obtain ⟨hbrace, hslash⟩ := hs c List.mem_cons_self
      have hopens : opens 2 (c :: (s ++ rest)) = false := opens_two_cons hbrace _
      rw [List.cons_append, readText, if_neg hslash, if_neg (by rw [hopens]; exact Bool.false_ne_true),
        ih fun d hd => hs d (List.mem_cons_of_mem _ hd)]

theorem passed_append (before s rest : List Char) :
    passed before (s ++ rest) rest = s.reverse ++ before := by
  rw [passed, consumed_append]

theorem sourceOf_cons (p : Piece) (ps : List Piece) :
    sourceOf (p :: ps) = p.source ++ sourceOf ps := List.flatMap_cons

theorem opens_sourceOf {ps : List Piece} (h : ∀ q, ps.head? = some q → q.isTag = true) :
    sourceOf ps = [] ∨ opens 2 (sourceOf ps) = true := by
  cases ps with
  | nil => exact .inl rfl
  | cons q ps =>
      cases q with
      | text s => exact absurd (h _ rfl) (by simp [Piece.isTag])
      | tag inside t => exact .inr rfl

theorem scanFrom_sourceOf {ps : List Piece} (hvalid : ∀ p ∈ ps, p.Valid) (hsep : Separated ps)
    {fuel : Nat} (hfuel : ps.length < fuel) (before : List Char) :
    scanFrom fuel before (sourceOf ps) = some (itemsOf before ps) := by
  induction ps generalizing fuel before with
  | nil =>
      obtain ⟨fuel, rfl⟩ := Nat.exists_eq_succ_of_ne_zero (Nat.ne_of_gt hfuel)
      rfl
  | cons p ps ih =>
      obtain ⟨fuel, rfl⟩ := Nat.exists_eq_succ_of_ne_zero (Nat.ne_of_gt (Nat.zero_lt_of_lt hfuel))
      have hrest (before : List Char) := ih (fun q hq => hvalid q (List.mem_cons_of_mem _ hq)) hsep.2
        (Nat.lt_of_succ_lt_succ hfuel) before
      have hp := hvalid p List.mem_cons_self
      rw [sourceOf_cons]
      cases p with
      | text s =>
          obtain ⟨hne, hs⟩ := hp
          have hnext := opens_sourceOf (hsep.1.resolve_left (by simp [Piece.isTag]))
          have hread := readText_piece hs hnext
          obtain ⟨c, s', rfl⟩ := List.exists_cons_of_ne_nil hne
          have hstrip : strip? (braces 2) ((c :: s') ++ sourceOf ps) = none := by
            simp [braces, List.replicate, strip?, Ne.symm (hs c List.mem_cons_self).1]
          rw [Piece.source, scanFrom, hstrip]
          · dsimp only
            rw [hread, passed_append, hrest]
            rfl
          · simp
      | tag inside t =>
          have hread := hp (sourceOf ps)
          have hinside : inside ++ closed [] ++ sourceOf ps = inside ++ closed (sourceOf ps) := by
            rw [List.append_assoc]
            rfl
          have hpassed := passed_append before (Piece.tag inside t).source (sourceOf ps)
          have hstrip : strip? (braces 2) ((Piece.tag inside t).source ++ sourceOf ps) =
              some (inside ++ closed (sourceOf ps)) := by
            rw [← hinside]
            rfl
          rw [scanFrom, hstrip]
          · dsimp only
            rw [hread]
            dsimp only
            rw [hpassed, hrest]
            rfl
          · simp [Piece.source]

theorem length_le_sourceOf {ps : List Piece} (hvalid : ∀ p ∈ ps, p.Valid) :
    ps.length ≤ (sourceOf ps).length := by
  induction ps with
  | nil => exact Nat.le_refl _
  | cons p ps ih =>
      have hrest := ih fun q hq => hvalid q (List.mem_cons_of_mem _ hq)
      have hpos : 0 < p.source.length := by
        cases p with
        | text s => exact List.length_pos_iff.mpr (hvalid _ List.mem_cons_self).1
        | tag inside t => exact Nat.succ_pos _
      rw [sourceOf_cons, List.length_append, List.length_cons]
      omega

/-- A source of pieces compiles to what its items are put together to. -/
theorem compile_of_pieces {source : String} {ps : List Piece} {body : List Node} {all line : Bool}
    (hsource : source.toList = sourceOf ps) (hvalid : ∀ p ∈ ps, p.Valid) (hsep : Separated ps)
    (hbody : addItems ⟨[], [], false, false⟩ (itemsOf [] ps) = some ⟨[], body, all, line⟩) :
    compile source = some body.reverse := by
  have hlen := length_le_sourceOf hvalid
  have hscan := scanFrom_sourceOf hvalid hsep (Nat.lt_succ_of_le hlen) []
  rw [compile, scan, hsource, hscan]
  dsimp only
  rw [hbody]

/-- Text at whose end a line ends or begins. -/
def AtLine (s : List Char) : Prop := s.head? = none ∨ s.head? = some '\n'

theorem placeOf_alone {before rest : List Char} (hb : AtLine before) (hr : AtLine rest) :
    standsAlone (placeOf before rest) = true ∧ (placeOf before rest).blanks = [] := by
  have hblank : Unicode.isBlank '\n' = false := rfl
  have hend : isLineEnd '\n' = true := rfl
  constructor
  · rcases hb with hb | hb <;> rcases hr with hr | hr <;> cases before <;> cases rest <;>
      simp_all [standsAlone, placeOf]
  · rcases hb with hb | hb <;> cases before <;> simp_all [placeOf]

section

variable {opened : List OpenTag} {body : List Node} {line : Bool} {before inside : List Char}
  {ps : List Piece}

theorem addItems_text (s : List Char) :
    addItems ⟨opened, body, false, line⟩ (itemsOf before (.text s :: ps)) =
      addItems ⟨opened, textNode (if line then dropLineEnd (s.dropWhile Unicode.isBlank) else s) :: body,
        false, false⟩ (itemsOf (s.reverse ++ before) ps) := by
  rw [itemsOf]
  split <;> rfl

theorem addItems_value (call : Call) :
    addItems ⟨opened, body, false, line⟩ (itemsOf before (.tag inside (.value call) :: ps)) =
      addItems ⟨opened, .value call :: body, false, line⟩
        (itemsOf ((Piece.tag inside (.value call)).source.reverse ++ before) ps) := rfl

variable (hb : AtLine before) (hr : AtLine (sourceOf ps))

include hb hr

theorem addItems_opening (call : Call) (binders : Option Binders) :
    addItems ⟨opened, body, false, line⟩
        (itemsOf before (.tag inside (.opening call binders) :: ps)) =
      addItems ⟨.block (mapLastText Unicode.trimBlankEnd body) [] (some ⟨call, binders, true⟩) :: opened,
        [], false, true⟩
        (itemsOf ((Piece.tag inside (.opening call binders)).source.reverse ++ before) ps) := by
  simp [itemsOf, addItems, addItem, isValue, isComment, applyTag, (placeOf_alone hb hr).1]

theorem addItems_inclusion (call : Call) :
    addItems ⟨opened, body, false, line⟩ (itemsOf before (.tag inside (.inclusion call) :: ps)) =
      addItems ⟨opened,
        .inclusion call ⟨none, true⟩ none :: mapLastText Unicode.trimBlankEnd body, false, true⟩
        (itemsOf ((Piece.tag inside (.inclusion call)).source.reverse ++ before) ps) := by
  simp [itemsOf, addItems, addItem, isValue, isComment, applyTag, placeOf_alone hb hr]

theorem addItems_closing {outer : List Node} (call : Call) (binders : Option Binders) :
    addItems ⟨.block outer [] (some ⟨call, binders, true⟩) :: opened, body, false, line⟩
        (itemsOf before (.tag inside (.closing call.wordName) :: ps)) =
      addItems ⟨opened, .block call binders true
          (mapLastText Unicode.trimBlankEnd body).reverse none :: outer, false, true⟩
        (itemsOf ((Piece.tag inside (.closing call.wordName)).source.reverse ++ before) ps) := by
  simp [itemsOf, addItems, addItem, isValue, isComment, applyTag, (placeOf_alone hb hr).1, closeTag,
    firstCall, foldBranches]

end

section

variable (s f w : String) (ws : List String)

def textPiece : Piece := .text s.toList

def valuePiece : Piece := .tag w.toList (.value ⟨.path ⟨w, [.key w]⟩, [], []⟩)

def helperPiece : Piece :=
  .tag (f.toList ++ ' ' :: w.toList) (.value ⟨.word f, [.path ⟨w, [.key w]⟩], []⟩)

def openingPiece : Piece :=
  .tag ('#' :: (f.toList ++ ' ' :: (w.toList ++ dotted (ws.map String.toList))))
    (.opening ⟨.word f, [.path (pathOf w.toList (ws.map String.toList))], []⟩ none)

def closingPiece : Piece := .tag ('/' :: w.toList) (.closing w)

def inclusionPiece : Piece := .tag ('>' :: ' ' :: w.toList) (.inclusion ⟨.word w, [], []⟩)

variable {s f w : String} {ws : List String}

theorem pathOf_toList (w : String) : pathOf w.toList [] = ⟨w, [.key w]⟩ := by
  simp [pathOf, dotted]

theorem pathOf_two (w v : String) :
    pathOf w.toList [v.toList] = ⟨w ++ "." ++ v, [.key w, .key v]⟩ := by
  have hraw : String.ofList (w.toList ++ dotted [v.toList]) = w ++ "." ++ v := by
    rw [← String.toList_inj, String.toList_ofList, String.toList_append, String.toList_append,
      dotted, dotted, List.append_nil, List.append_assoc]
    rfl
  rw [pathOf, hraw, List.map_cons, List.map_nil, String.ofList_toList, String.ofList_toList]

theorem valid_textPiece (hne : s ≠ "") (hs : '\x7b' ∉ s.toList ∧ '\\' ∉ s.toList) :
    (textPiece s).Valid :=
  ⟨fun h => hne (String.toList_eq_nil_iff.mp h),
    fun _ hc => ⟨ne_of_mem_of_not_mem hc hs.1, ne_of_mem_of_not_mem hc hs.2⟩⟩

theorem valid_valuePiece (h : PlainWord w.toList) : (valuePiece w).Valid := by
  intro rest
  rw [← pathOf_toList]
  exact readTag_value h rest

theorem valid_helperPiece (hf : PlainWord f.toList) (h : PlainWord w.toList) :
    (helperPiece f w).Valid := by
  intro rest
  have hnone : ∀ v ∈ ([] : List (List Char)), PlainWord v := nofun
  have hread := readTag_helper hf h hnone rest
  simpa [dotted, pathOf_toList] using hread

theorem valid_openingPiece (hf : PlainWord f.toList) (h : PlainWord w.toList)
    (hws : ∀ v ∈ ws, PlainWord v.toList) : (openingPiece f w ws).Valid := by
  intro rest
  have hkeys : ∀ v ∈ ws.map String.toList, PlainWord v := by simpa using hws
  have hread := readTag_opening hf h hkeys rest
  simpa using hread

theorem valid_closingPiece (h : PlainWord w.toList) : (closingPiece w).Valid := by
  intro rest
  have hread := readTag_closing h rest
  simpa using hread

theorem valid_inclusionPiece (h : PartialWord w.toList) : (inclusionPiece w).Valid := by
  intro rest
  have hread := readTag_inclusion h rest
  simpa using hread

end

def Piece.node? : Piece → Option Node
  | .text s => some (textNode s)
  | .tag _ (.value call) => some (.value call)
  | .tag _ _ => none

theorem addItems_flat {ps : List Piece} {nodes : List Node}
    (h : ps.map Piece.node? = nodes.map some) (qs : List Piece) (opened : List OpenTag)
    (body : List Node) (before : List Char) :
    addItems ⟨opened, body, false, false⟩ (itemsOf before (ps ++ qs)) =
      addItems ⟨opened, nodes.reverse ++ body, false, false⟩
        (itemsOf ((sourceOf ps).reverse ++ before) qs) := by
  induction ps generalizing nodes body before with
  | nil =>
      cases nodes with
      | nil => rfl
      | cons n nodes => cases h
  | cons p ps ih =>
      cases nodes with
      | nil => cases h
      | cons n nodes =>
          rw [List.map_cons, List.map_cons, List.cons.injEq] at h
          obtain ⟨hp, hps⟩ := h
          have hbefore : (sourceOf (p :: ps)).reverse ++ before =
              (sourceOf ps).reverse ++ (p.source.reverse ++ before) := by
            rw [sourceOf_cons, List.reverse_append, List.append_assoc]
          have hbody : (n :: nodes).reverse ++ body = nodes.reverse ++ n :: body := by simp
          rw [hbefore, hbody, List.cons_append]
          cases p with
          | text s =>
              cases hp
              rw [addItems_text]
              exact ih hps _ _
          | tag inside t =>
              cases t with
              | value call =>
                  cases hp
                  rw [addItems_value]
                  exact ih hps _ _
              | _ => cases hp

theorem compile_flat {source : String} {ps : List Piece} {nodes : List Node}
    (hsource : source.toList = sourceOf ps) (hvalid : ∀ p ∈ ps, p.Valid) (hsep : Separated ps)
    (hnodes : ps.map Piece.node? = nodes.map some) : compile source = some nodes := by
  have hbody := addItems_flat hnodes [] [] [] []
  rw [List.append_nil, List.append_nil] at hbody
  rw [compile_of_pieces hsource hvalid hsep hbody, List.reverse_reverse]

end Viewsmith.Template

import ModalLexer.Diagnostic
import ModalLexer.Proofs.Lines
import ModalLexer.Proofs.Wording

/-! What a diagnostic says besides its drawings: the message, the place, the label and the advice, as
far as the span of the fault is on the lines of the source. -/
namespace ModalLexer.Diagnostic
open Text (Line)

def Ink.speaks (i : Ink) : Bool := i.hue.isNone && i.text.toList.any (· != ' ')

namespace Row

def spoken (row : Row) : List String := (row.filter Ink.speaks).map Ink.text

variable {row : Row} {text : String}

theorem spokenMember : text ∈ spoken row ↔ bare text ∈ row ∧ ∃ c ∈ text.toList, c ≠ ' ' := by
  simp only [spoken, List.mem_map, List.mem_filter, Ink.speaks, Bool.and_eq_true,
    Option.isNone_iff_eq_none, List.any_eq_true, bne_iff_ne]
  constructor
  · rintro ⟨⟨hue, other⟩, ⟨member, rfl, loud⟩, rfl⟩
    exact ⟨member, loud⟩
  · rintro ⟨member, loud⟩
    exact ⟨_, ⟨member, rfl, loud⟩, rfl⟩

@[simp] theorem spokenAppend (left right : Row) :
    spoken (left ++ right) = spoken left ++ spoken right := by
  simp [spoken]

theorem spokenNone (quiet : ∀ i ∈ row, i.speaks = false) : spoken row = [] := by
  rw [spoken, List.filter_eq_nil_iff.mpr (by simpa using quiet), List.map_nil]

theorem spokenNil : spoken [] = [] := spokenNone (by simp)

theorem spokenQuiet {i : Ink} (quiet : i.speaks = false) (row : Row) :
    spoken (i :: row) = spoken row := by
  rw [spoken, List.filter_cons_of_neg (by rw [quiet]; decide)]
  rfl

@[simp] theorem spokenInk (hue : Hue) (text : String) (row : Row) :
    spoken (ink hue text :: row) = spoken row :=
  spokenQuiet rfl row

theorem spokenSaid (loud : ∃ c ∈ text.toList, c ≠ ' ') (row : Row) :
    spoken (bare text :: row) = text :: spoken row := by
  have speaks : (bare text).speaks = true := by simpa [Ink.speaks, bare] using loud
  rw [spoken, List.filter_cons_of_pos speaks]
  rfl

end Row

open Row (spoken spokenNil spokenNone spokenQuiet spokenSaid)

theorem spacesQuiet (count : Nat) : (bare (spaces count)).speaks = false := by
  simp [Ink.speaks, bare, spaces]

@[simp] theorem spokenSpaces (count : Nat) (row : Row) :
    spoken (bare (spaces count) :: row) = spoken row :=
  spokenQuiet (spacesQuiet count) row

@[simp] theorem sourceSpoken (s : Span) (line : Line) : spoken (sourceRow s line) = [] := by
  apply spokenNone
  simp only [sourceRow, List.mem_flatMap, List.mem_replicate]
  rintro _ ⟨entry, _, _, rfl⟩
  rfl

theorem columnInk {i head tail : Ink} {cells : Nat} (member : i ∈ columnRow cells head tail) :
    i = head ∨ i = tail := by
  cases cells with
  | zero => contradiction
  | succ more =>
    rw [columnRow, List.mem_cons] at member
    exact member.imp_right List.eq_of_mem_replicate

theorem underlineInk {i : Ink} {s : Span} {line : Line} (member : i ∈ underlineRow s line) :
    i = stroke ∨ i = bare " " ∨ i = ink .mark "┬" ∨ i = ink .mark "│" ∨ i = ink .mark " " := by
  rw [underlineRow, List.mem_flatMap] at member
  obtain ⟨entry, _, member⟩ := member
  dsimp only at member
  by_cases marked : isMarked s line entry.2 = true
  · rw [if_pos marked, if_pos marked, if_pos marked] at member
    split at member
    · rcases columnInk member with rfl | rfl <;> simp [stroke]
    · rcases columnInk member with rfl | rfl <;> simp
  · rw [if_neg marked, if_neg marked, if_neg marked] at member
    split at member
    · rcases columnInk member with rfl | rfl <;> simp
    · rcases columnInk member with rfl | rfl <;> simp

theorem hookInk {i : Ink} {s : Span} {line : Line} (member : i ∈ hookRow s line) :
    i = stroke ∨ i = bare " " ∨ i = ink .mark "╰" := by
  rw [hookRow, List.mem_flatMap] at member
  obtain ⟨entry, _, member⟩ := member
  split at member
  · rcases columnInk member with rfl | rfl <;> simp
  · split at member
    · rcases columnInk member with rfl | rfl <;> simp
    · rcases columnInk member with rfl | rfl <;> simp

@[simp] theorem underlineSpoken (s : Span) (line : Line) : spoken (underlineRow s line) = [] := by
  apply spokenNone
  intro i member
  rcases underlineInk member with rfl | rfl | rfl | rfl | rfl <;> rfl

@[simp] theorem hookSpoken (s : Span) (line : Line) : spoken (hookRow s line) = [] := by
  apply spokenNone
  intro i member
  rcases hookInk member with rfl | rfl | rfl <;> rfl

@[simp] theorem marginSpoken (width : Nat) : spoken (margin width) = [] :=
  spokenNone (by simp [margin, ink, bare, Ink.speaks])

theorem numberedSpoken (width : Nat) (line : Line) : spoken (numberedMargin width line) = [] :=
  spokenNone (by simp [numberedMargin, ink, bare, Ink.speaks])

def advice (f : Fault) : List String := f.cause.hint.toList.map (": " ++ ·)

theorem helpSpoken {start : Row} (quiet : spoken start = []) (f : Fault) :
    spoken (helpRows start f).flatten = advice f := by
  unfold helpRows advice
  cases f.cause.hint with
  | none => rfl
  | some hint =>
    have said : spoken [bare (": " ++ hint)] = [": " ++ hint] := spokenSaid (by simp) []
    simp [quiet, said]

theorem labelLoud (c : Context) : ∃ d ∈ (" " ++ c.label).toList, d ≠ ' ' := by
  refine ⟨'e', ?_, by decide⟩
  rw [String.toList_append]
  exact List.mem_append_right _ (labelLetter c)

theorem spokenLabel (c : Context) (row : Row) :
    spoken (bare (" " ++ c.label) :: row) = (" " ++ c.label) :: spoken row :=
  spokenSaid (labelLoud c) row

@[simp] theorem strokeSpoken (count : Nat) : spoken (List.replicate count stroke) = [] :=
  spokenNone fun _ member => List.eq_of_mem_replicate member ▸ rfl

theorem acrossSpoken (width : Nat) (f : Fault) (first last : Line) (past : Bool) :
    spoken (acrossRows width f first last past).flatten =
      if past then [] else [" " ++ f.context.label] := by
  have gap := spokenQuiet (i := bare " ") rfl
  have room := spokenQuiet (i := bare "   ") rfl
  have drawn : ∀ row, spoken (stroke :: row) = spoken row := Row.spokenInk .mark "─"
  unfold acrossRows gapMargin arrow
  cases past with
  | true => simp [gap, room, spokenNil, numberedSpoken]
  | false =>
    by_cases apart : first.number + 1 < last.number <;>
      simp [apart, gap, room, drawn, spokenNil, numberedSpoken, spokenLabel]

theorem acrossHelpQuiet (width : Nat) (text : List Char) (start : Nat) :
    spoken (acrossHelpMargin width text start) = [] := by
  unfold acrossHelpMargin
  dsimp only
  split <;> rfl

theorem bodySpoken (width : Nat) (text : List Char) (f : Fault) (placement : Placement) :
    spoken (bodyRows width text f placement).flatten =
      match placement with
      | .outside => []
      | .beyond _ => advice f
      | .within _ => (" " ++ f.context.label) :: advice f
      | .across _ _ past => (if past then [] else [" " ++ f.context.label]) ++ advice f := by
  have help := helpSpoken (marginSpoken width) f
  cases placement with
  | outside => rfl
  | beyond line => simp [bodyRows, help]
  | within line => simp [bodyRows, numberedSpoken, spokenLabel, help]
  | across first last past =>
    simp [bodyRows, acrossSpoken, helpSpoken (acrossHelpQuiet width text f.span.start)]

def location (name : String) (line : Line) (offset : Nat) : String :=
  name ++ ":" ++ (toString (line.number + 1) ++ ":" ++ toString (offset - line.start + 1))

theorem locationSpoken (width : Nat) (name : String) (line : Line) (offset : Nat) :
    spoken (locationRow width name line offset) = [location name line offset] := by
  unfold locationRow
  rw [spokenSpaces]
  simp only [Row.spokenInk]
  exact spokenSaid ⟨':', by simp, by decide⟩ _

theorem headingSpoken (f : Fault) : spoken (headingRow f) = [" " ++ f.cause.message] := by
  refine spokenSaid ⟨'e', ?_, by decide⟩ []
  rw [String.toList_append]
  exact List.mem_append_right _ (messageLetter f.cause)

theorem rowsSpoken (name source : String) (f : Fault) :
    spoken (rows name source f).flatten = (" " ++ f.cause.message) ::
      let placement := Placement.ofSpan source.toList f.span
      match placement.first? with
      | none => []
      | some first => location name first f.span.start ::
          spoken (bodyRows 0 source.toList f placement).flatten := by
  unfold rows
  dsimp only
  cases Placement.ofSpan source.toList f.span with
  | outside => simp [Placement.first?, headingSpoken]
  | beyond | within | across =>
    simp [Placement.first?, Placement.last?, spokenNil, headingSpoken, locationSpoken, bodySpoken]

/-- Where a span lies by its offsets, taken as counts of characters. Its end may be one further than
that of the text. -/
inductive Lies (text : List Char) (s : Span) : Placement → Prop where
  | outside (off : text = [] ∨ text.length < s.start ∨ text.length + 1 < s.stop) :
      Lies text s .outside
  | beyond {line : Line} (first : Line.at? text s.start = some line)
      (past : s.stop = text.length + 1) : Lies text s (.beyond line)
  | within {line : Line} (first : Line.at? text s.start = some line)
      (inside : s.stop ≤ text.length) : Lies text s (.within line)
  | across {line last : Line} (first : Line.at? text s.start = some line)
      (upto : s.stop ≤ text.length + 1) : Lies text s (.across line last (s.stop = text.length + 1))

theorem spanLies (text : List Char) {s : Span} (ordered : s.start ≤ s.stop) :
    Lies text s (Placement.ofSpan text s) := by
  unfold Placement.ofSpan
  dsimp only
  have final : ∃ last, (if s.stop ≤ s.start then s.start else s.stop - 1) = last ∧
      (s.start = s.stop ∧ last = s.start ∨ s.start < s.stop ∧ last + 1 = s.stop) := by
    refine ⟨_, rfl, ?_⟩
    split <;> omega
  obtain ⟨last, same, place⟩ := final
  rw [same]
  cases first : Line.at? text s.start with
  | none =>
    rcases Line.atOutside.mp first with bare | further
    · exact .outside (.inl bare)
    · exact .outside (.inr (.inl further))
  | some line =>
    cases found : Line.at? text last with
    | none =>
      rcases Line.atOutside.mp found with bare | further
      · exact .outside (.inl bare)
      · exact .outside (by omega)
    | some other =>
      obtain ⟨member, above, below⟩ := Line.atFound first
      obtain ⟨also, starts, ends⟩ := Line.atFound found
      have inside := (Line.partsInside (Line.splitParts text) member).2.2.2
      have bound := (Line.partsInside (Line.splitParts text) also).2.2.2
      dsimp only
      by_cases one : line.number = other.number
      · obtain rfl := @Line.partsUnique _ _ 0 _ _ _ _ (Line.splitParts text) member also (.inl one)
        rw [if_pos rfl]
        by_cases short : line.stop < s.stop
        · rw [if_pos short]
          exact .beyond first (by omega)
        · rw [if_neg short]
          exact .within first (by omega)
      · rw [if_neg one]
        exact .across first (by omega)

/-- All that a diagnostic says. Of a span that is on no line there is the message alone. One that
goes past the end of its source by one character has no label. -/
theorem spokenExact (name source : String) {f : Fault} (ordered : f.span.start ≤ f.span.stop) :
    spoken (rows name source f).flatten = (" " ++ f.cause.message) ::
      match Line.at? source.toList f.span.start with
      | none => []
      | some line =>
        if f.span.stop ≤ source.toList.length + 1 then
          location name line f.span.start ::
            ((if f.span.stop ≤ source.toList.length then [" " ++ f.context.label] else []) ++
              advice f)
        else [] := by
  have lies := spanLies source.toList ordered
  rw [rowsSpoken]
  generalize Placement.ofSpan source.toList f.span = placement at lies ⊢
  cases lies with
  | outside off =>
    cases first : Line.at? source.toList f.span.start with
    | none => rfl
    | some line =>
      have on : ¬ (source.toList = [] ∨ source.toList.length < f.span.start) := by
        rw [← Line.atOutside, first]
        simp
      have far : source.toList.length + 1 < f.span.stop :=
        (off.resolve_left fun bare => on (.inl bare)).resolve_left fun further => on (.inr further)
      exact congrArg _ (if_neg (Nat.not_le_of_lt far)).symm
  | beyond first past => simp [Placement.first?, bodySpoken, first, past]
  | within first inside =>
    rw [first]
    dsimp only [Placement.first?]
    rw [if_pos (by omega), if_pos inside, bodySpoken]
    rfl
  | across first upto =>
    rw [first]
    dsimp only [Placement.first?]
    rw [if_pos upto, bodySpoken]
    by_cases past : f.span.stop = source.toList.length + 1
    · simp [past]
    · have inside : f.span.stop ≤ source.toList.length := by omega
      simp [past, inside]

theorem rowAppend (color : Bool) (left right : Row) :
    Row.render color (left ++ right) = left.render color ++ right.render color := by
  unfold Row.render
  rw [List.map_append, String.join_append]

theorem renderText (name source : String) (f : Fault) (color : Bool) :
    (render name source f color).toList = (rows name source f).flatMap fun row =>
      (row.flatMap fun i => (i.render color).toList) ++ ['\n'] := by
  simp [render, Text.unlines, Row.render, String.toList_join, List.flatMap_map]

theorem joinPart {text : String} {texts : List String} (member : text ∈ texts) :
    text.toList <:+: (String.join texts).toList := by
  rw [String.toList_join]
  exact List.infix_of_mem_flatten (List.mem_map_of_mem member)

theorem inkShown {row : Row} {i : Ink} (member : i ∈ row) (color : Bool) :
    (i.render color).toList <:+: (row.render color).toList :=
  joinPart (List.mem_map_of_mem member)

theorem rowShown {name source : String} {f : Fault} {row : Row} (member : row ∈ rows name source f)
    (color : Bool) : (row.render color ++ "\n").toList <:+: (render name source f color).toList :=
  joinPart (List.mem_map_of_mem (List.mem_map_of_mem member))

theorem bareShown {name source text : String} {f : Fault}
    (said : bare text ∈ (rows name source f).flatten) (color : Bool) :
    text.toList <:+: (render name source f color).toList := by
  obtain ⟨row, member, inside⟩ := List.mem_flatten.mp said
  have shown := rowShown member color
  rw [String.toList_append] at shown
  exact (inkShown inside color).trans ((List.prefix_append _ _).isInfix.trans shown)

end ModalLexer.Diagnostic

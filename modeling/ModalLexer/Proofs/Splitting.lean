import ModalLexer.Proofs.Account
import ModalLexer.Proofs.Join

/-! Splitting: extended text without a mark is cut at its spaces, and nothing else in it is read.
Each piece is a word, less the blanks in front. -/
namespace ModalLexer
open Unicode (isBlank)

structure Stretch where
  start : Nat
  text : List Char
  deriving DecidableEq, Repr

namespace Stretch

def stop (w : Stretch) : Nat := w.start + utf8Size w.text

def trimmed (w : Stretch) : Stretch :=
  ⟨w.start + utf8Size (w.text.takeWhile isBlank), w.text.dropWhile isBlank⟩

def token (w : Stretch) : Token := ⟨.word (String.ofList w.text), .between w.start w.stop⟩

theorem trimmedStop (w : Stretch) : w.trimmed.stop = w.stop := by
  have parts := congrArg utf8Size (List.takeWhile_append_dropWhile (p := isBlank) (l := w.text))
  rw [utf8SizeAppend] at parts
  simp only [stop, trimmed, ← parts, Nat.add_assoc]

def Found (source : String) (w : Stretch) : Prop :=
  ∃ before after, Cut source ⟨w.start, w.stop⟩ before w.text after

end Stretch

def laid (floor : Nat) : List (List Char) → List Stretch
  | [] => []
  | piece :: later => ⟨floor, piece⟩ :: laid (floor + utf8Size piece + ' '.utf8Size) later

def wordsFrom (floor : Nat) (text : List Char) : List Stretch :=
  ((laid floor (text.splitOn ' ')).map Stretch.trimmed).filter fun w => w.text ≠ []

def words (source : String) : List Stretch := wordsFrom 0 source.toList

def wordOf (w : Stretch) : List Stretch := [w.trimmed].filter fun w => w.text ≠ []

theorem wordsLast {piece : List Char} (plain : ' ' ∉ piece) (floor : Nat) :
    wordsFrom floor piece = wordOf ⟨floor, piece⟩ := by
  rw [wordsFrom, List.splitOn_eq_singleton plain]
  rfl

theorem wordsSpace {piece : List Char} (plain : ' ' ∉ piece) (floor : Nat) (later : List Char) :
    wordsFrom floor (piece ++ ' ' :: later) =
      wordOf ⟨floor, piece⟩ ++ wordsFrom (floor + utf8Size piece + ' '.utf8Size) later := by
  rw [wordsFrom, List.splitOn_append_cons_self_of_not_mem plain]
  exact List.filter_append [Stretch.trimmed ⟨floor, piece⟩] _

theorem spacesInduction {P : List Char → Prop} (last : ∀ piece, ' ' ∉ piece → P piece)
    (space : ∀ piece later, ' ' ∉ piece → P later → P (piece ++ ' ' :: later)) (text : List Char) :
    P text := by
  induction same : text.length using Nat.strongRecOn generalizing text with
  | _ n ih =>
    by_cases spaced : ' ' ∈ text
    · obtain ⟨piece, later, rfl, plain⟩ := List.eq_append_cons_of_mem spaced
      rw [List.length_append, List.length_cons] at same
      exact space piece later plain (ih later.length (by omega) later rfl)
    · exact last text spaced

theorem wordNone {w : Stretch} (gap : ∀ c ∈ w.text, isBlank c = true) : wordOf w = [] := by
  have none : w.text.dropWhile isBlank = [] := List.dropWhile_eq_nil_iff.mpr gap
  simp [wordOf, Stretch.trimmed, none]

theorem wordSome {w : Stretch} (filled : w.text.dropWhile isBlank ≠ []) :
    wordOf w = [w.trimmed] := by
  simp [wordOf, Stretch.trimmed, filled]

theorem wordFound {source : String} {passed piece after : List Char}
    (whole : source.toList = passed ++ (piece ++ after)) :
    ∀ w ∈ wordOf ⟨utf8Size passed, piece⟩, w.Found source := by
  intro w member
  obtain rfl := List.mem_singleton.mp (List.mem_filter.mp member).1
  have split := List.takeWhile_append_dropWhile (p := isBlank) (l := piece)
  refine ⟨passed ++ piece.takeWhile isBlank, after, ?_, ?_, ?_⟩
  · rw [whole, List.append_assoc, ← List.append_assoc (piece.takeWhile isBlank)]
    exact congrArg (fun text => passed ++ (text ++ after)) split.symm
  · rw [utf8SizeAppend]
    rfl
  · rw [utf8SizeAppend]
    rfl

theorem wordsFound {source : String} {passed text : List Char}
    (whole : source.toList = passed ++ text) :
    ∀ w ∈ wordsFrom (utf8Size passed) text, w.Found source := by
  induction text using spacesInduction generalizing passed with
  | last piece plain =>
    rw [wordsLast plain]
    exact @wordFound source passed piece [] (by rw [whole, List.append_nil])
  | space piece later plain ih =>
    rw [wordsSpace plain]
    have further := @ih (passed ++ (piece ++ [' '])) (by rw [whole]; simp)
    rw [utf8SizeAppend, utf8SizeAppend, ← Nat.add_assoc] at further
    exact List.forall_mem_append.mpr ⟨wordFound whole, further⟩

namespace Session

theorem pieceYields {s : Session} {blanks piece tail : List Char} (going : s.ended = false)
    (extended : s.mode = .extended) (gap : ∀ c ∈ blanks, isBlank c = true)
    (inside : ∀ c ∈ piece, c ≠ ' ' ∧ c ≠ switchMark) (spaced : ∀ c ∈ tail.head?, c = ' ')
    (split : s.rest = blanks ++ (piece ++ tail)) (filled : piece.dropWhile isBlank ≠ []) :
    let w := Stretch.trimmed ⟨s.pos + utf8Size blanks, piece⟩
    s.Yields (.ok w.token) { s with pos := w.stop, rest := tail, current := some w.token } ∧
      w.token.isEof = false := by
  have parts := List.takeWhile_append_dropWhile (p := isBlank) (l := piece)
  have front : ∀ c ∈ piece.takeWhile isBlank, isBlank c = true :=
    List.all_eq_true.mp List.all_takeWhile
  have first := headAfterDrop isBlank piece
  have back : ∀ c ∈ piece.dropWhile isBlank, c ≠ ' ' ∧ c ≠ switchMark := fun c member =>
    inside c ((List.dropWhile_suffix isBlank).subset member)
  have noMark : tail.head? ≠ some switchMark := fun mark => absurd (spaced _ mark) (by decide)
  have rule := Rule.run filled back (fun c head => .inl (spaced c head))
  rw [if_neg noMark, ← extended] at rule
  have whole : s.rest = (blanks ++ piece.takeWhile isBlank) ++ (piece.dropWhile isBlank ++ tail) := by
    rw [split, List.append_assoc, ← List.append_assoc (piece.takeWhile isBlank), parts]
  have yields := ruleYields going (List.forall_mem_append.mpr ⟨gap, front⟩) first whole rule
  rw [utf8SizeAppend, ← Nat.add_assoc] at yields
  exact yields

theorem plainInside {piece : List Char} (plain : ' ' ∉ piece) (noMark : switchMark ∉ piece) :
    ∀ c ∈ piece, c ≠ ' ' ∧ c ≠ switchMark := fun _ member =>
  ⟨fun same => plain (same ▸ member), fun same => noMark (same ▸ member)⟩

/- By induction on the pieces: blanks may be left over from pieces that came to nothing, and from the
space behind the last word. -/
theorem splitLead {text : List Char} (noMark : switchMark ∉ text) {s : Session} {blanks : List Char}
    (going : s.ended = false) (extended : s.mode = .extended)
    (gap : ∀ c ∈ blanks, isBlank c = true) (split : s.rest = blanks ++ text) :
    ∃ u, Lead s ((wordsFrom (s.pos + utf8Size blanks) text).map Stretch.token) u ∧
      ∀ c ∈ u.rest, isBlank c = true := by
  induction text using spacesInduction generalizing s blanks with
  | last piece plain =>
    rw [wordsLast plain]
    by_cases filled : piece.dropWhile isBlank = []
    · have blank := List.dropWhile_eq_nil_iff.mp filled
      rw [wordNone blank]
      exact ⟨s, .nil s, by rw [split]; exact List.forall_mem_append.mpr ⟨gap, blank⟩⟩
    · have whole : s.rest = blanks ++ (piece ++ []) := by rw [split, List.append_nil]
      obtain ⟨asked, more⟩ :=
        pieceYields going extended gap (plainInside plain noMark) (by simp) whole filled
      rw [wordSome filled]
      exact ⟨_, .cons asked more (.nil _), by simp⟩
  | space piece later plain ih =>
    obtain ⟨noMark, further⟩ := not_or.mp (mt List.mem_append.mpr noMark)
    have beyond : switchMark ∉ later := fun member => further (List.mem_cons_of_mem _ member)
    rw [wordsSpace plain]
    by_cases filled : piece.dropWhile isBlank = []
    · have blank := List.dropWhile_eq_nil_iff.mp filled
      have blanker : ∀ c ∈ blanks ++ (piece ++ [' ']), isBlank c = true :=
        List.forall_mem_append.mpr
          ⟨gap, List.forall_mem_append.mpr ⟨blank, List.forall_mem_singleton.mpr blankSpace⟩⟩
      obtain ⟨u, lead, last⟩ := ih beyond going extended blanker (by rw [split]; simp)
      rw [utf8SizeAppend, utf8SizeAppend, ← Nat.add_assoc, ← Nat.add_assoc] at lead
      rw [wordNone blank]
      exact ⟨u, lead, last⟩
    · obtain ⟨asked, more⟩ :=
        pieceYields going extended gap (plainInside plain noMark) (by simp) split filled
      obtain ⟨u, lead, last⟩ := @ih beyond _ [' '] (yieldsGoing asked more) extended
        (List.forall_mem_singleton.mpr blankSpace) rfl
      have stop : (Stretch.trimmed ⟨s.pos + utf8Size blanks, piece⟩).stop =
          s.pos + utf8Size blanks + utf8Size piece := Stretch.trimmedStop _
      rw [wordSome filled, ← stop]
      exact ⟨u, .cons asked more lead, last⟩

theorem yieldsExtended {s after : Session} {result : Except Fault Token}
    (asked : s.Yields result after) (extended : s.mode = .extended) (noMark : switchMark ∉ s.rest) :
    after.mode = .extended ∧ switchMark ∉ after.rest := by
  obtain ⟨_, taken, front, _⟩ := yieldsTaken asked
  have further : switchMark ∉ after.rest := fun member =>
    noMark (front ▸ List.mem_append_right taken member)
  refine ⟨?_, further⟩
  cases result with
  | error fault =>
    rw [faultKeeps asked]
    exact extended
  | ok t =>
    cases yieldsEffect asked with
    | mark same gap split => exact absurd (split ▸ by simp) noMark
    | run same mode next =>
      rw [next, if_neg]
      exact fun head => further (List.mem_of_mem_head? head)
    | quiet _ _ stays => exact stays.trans extended

theorem streamExtended {s : Session} {steps : List Step} (stream : Stream s steps)
    (extended : s.mode = .extended) (noMark : switchMark ∉ s.rest) :
    ∀ step ∈ steps, step.after.mode = .extended := by
  induction stream with
  | token asked more later ih =>
    obtain ⟨mode, further⟩ := yieldsExtended asked extended noMark
    exact List.forall_mem_cons.mpr ⟨mode, ih mode further⟩
  | last asked final =>
    exact List.forall_mem_singleton.mpr (yieldsExtended asked extended noMark).1

end Session

/-- Extended text without a mark is split at each space, and what is left of a piece behind its first
blanks is a word where it stands. Its span is cut down only in a source past 4 GiB. -/
theorem spacesSplit (source : String) (noMark : switchMark ∉ source.toList) :
    tokenize source .extended = .ok ((words source).map Stretch.token ++
        [⟨.eof, .between source.utf8ByteSize source.utf8ByteSize⟩]) ∧
      (∀ step ∈ (Session.start source .extended).steps, step.after.mode = .extended) ∧
      ∀ w ∈ words source, w.Found source ∧
        (source.utf8ByteSize ≤ largestOffset → w.token.span = ⟨w.start, w.stop⟩) := by
  refine ⟨?_, ?_, ?_⟩
  · obtain ⟨u, lead, gap⟩ :=
      @Session.splitLead _ noMark (.start source .extended) [] rfl rfl (by simp) rfl
    have stop := (Session.leadStays lead).trans (Session.startStop source .extended)
    have ok := (Session.leadEof lead rfl rfl gap).1
    rw [tokenize, ok, ← stop]
    rfl
  · exact Session.streamExtended (Session.stepsStream rfl) rfl noMark
  · intro w member
    have found := @wordsFound source [] source.toList rfl w member
    refine ⟨found, fun small => ?_⟩
    obtain ⟨before, after, cut⟩ := found
    have total := congrArg utf8Size cut.whole
    have stop := cut.stop
    simp only [utf8SizeToList, utf8SizeAppend] at total stop
    exact betweenExact (Nat.le_add_right _ _) (by omega)

theorem tabbedPiecesSplit :
    let source := "  \t1.5 \t a\\\t\n b é\t"
    switchMark ∉ source.toList ∧ source.utf8ByteSize ≤ largestOffset ∧
      tokenize source .extended =
        .ok [⟨.word "1.5", ⟨3, 6⟩⟩, ⟨.word "a\\\t\n", ⟨9, 13⟩⟩, ⟨.word "b", ⟨14, 15⟩⟩,
          ⟨.word "é\t", ⟨16, 19⟩⟩, ⟨.eof, ⟨19, 19⟩⟩] ∧
      (∀ step ∈ (Session.start source .extended).steps, step.after.mode = .extended) ∧
      ∀ w ∈ words source, w.Found source ∧ w.token.span = ⟨w.start, w.stop⟩ := by
  intro source
  have noMark : switchMark ∉ source.toList := by decide
  have small : source.utf8ByteSize ≤ largestOffset := by decide
  have pieces : (words source).map Stretch.token = [⟨.word "1.5", ⟨3, 6⟩⟩,
      ⟨.word "a\\\t\n", ⟨9, 13⟩⟩, ⟨.word "b", ⟨14, 15⟩⟩, ⟨.word "é\t", ⟨16, 19⟩⟩] := by
    decide +kernel
  obtain ⟨ok, modes, found⟩ := spacesSplit source noMark
  rw [pieces] at ok
  exact ⟨noMark, small, ok, modes, fun w member => ⟨(found w member).1, (found w member).2 small⟩⟩

end ModalLexer

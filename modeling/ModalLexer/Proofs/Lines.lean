import Mathlib.Data.List.Basic
import ModalLexer.Text.Lines

/-! Lines as the parts of a text. Each offset of a character lies on one line, and the end of a text
goes with its last one. Breaks, which are blanks, stand only at the ends of lines. -/
namespace ModalLexer.Text.Line
open Unicode (isBlank)

inductive Parts : Nat → Nat → List Line → List Char → Prop where
  | nil (number start : Nat) : Parts number start [] []
  | cons {number start lines text rest} (filled : text ≠ [])
      (later : Parts (number + 1) (start + text.length) lines rest) :
      Parts number start (⟨number, start, text⟩ :: lines) (text ++ rest)

def Covers (l : Line) (offset : Nat) : Prop := l.start ≤ offset ∧ offset < l.stop

variable {number start offset : Nat} {lines : List Line} {text : List Char} {l m : Line}

theorem splitOntoParts (done : List Line) (number start : Nat) (taken text : List Char) :
    ∃ lines, splitOnto done number start taken text = done.reverse ++ lines ∧
      Parts number start lines (taken.reverse ++ text) := by
  fun_induction splitOnto done number start taken text with
  | case1 done number start taken none =>
    rw [List.isEmpty_iff.mp none]
    exact ⟨[], by rw [List.append_nil], .nil _ _⟩
  | case2 done number start taken some =>
    refine ⟨[⟨number, start, taken.reverse⟩], List.reverse_cons, .cons ?_ (.nil _ _)⟩
    simpa [List.isEmpty_iff] using some
  | case3 done number start taken c rest inLine same ih =>
    obtain ⟨lines, split, parts⟩ := ih
    rw [List.reverse_cons, List.append_assoc] at parts
    exact ⟨lines, split, parts⟩
  | case4 done number start taken c rest inLine ends line ih =>
    obtain ⟨lines, split, parts⟩ := ih
    refine ⟨line :: lines, ?_, ?_⟩
    · rw [split, List.reverse_cons, List.append_assoc]
      rfl
    · have whole : taken.reverse ++ c :: rest = (c :: taken).reverse ++ rest := by simp
      rw [whole]
      exact .cons (by simp) parts

theorem splitParts (text : List Char) : Parts 0 0 (split text) text := by
  obtain ⟨lines, same, parts⟩ := splitOntoParts [] 0 0 [] text
  rw [split, same]
  exact parts

theorem partsInside (parts : Parts number start lines text) (member : l ∈ lines) :
    number ≤ l.number ∧ start ≤ l.start ∧ l.start < l.stop ∧ l.stop ≤ start + text.length := by
  induction parts with
  | nil => contradiction
  | @cons number start lines text rest filled later ih =>
    have size := List.length_pos_iff.mpr filled
    rw [List.length_append]
    cases member with
    | head =>
      simp only [stop]
      omega
    | tail _ member =>
      have inside := ih member
      omega

theorem partsSlice (parts : Parts number start lines text) (member : l ∈ lines) :
    ∃ before after, text = before ++ (l.text ++ after) ∧ start + before.length = l.start := by
  induction parts with
  | nil => contradiction
  | @cons number start lines text rest filled later ih =>
    cases member with
    | head => exact ⟨[], rest, rfl, rfl⟩
    | tail _ member =>
      obtain ⟨before, after, same, place⟩ := ih member
      refine ⟨text ++ before, after, by rw [same, List.append_assoc], ?_⟩
      rw [List.length_append, ← Nat.add_assoc, place]

theorem partsUnique (parts : Parts number start lines text) (first : l ∈ lines) (second : m ∈ lines)
    (same : l.number = m.number ∨ l.Covers offset ∧ m.Covers offset) : l = m := by
  induction parts with
  | nil => contradiction
  | cons filled later ih =>
    cases first with
    | head =>
      cases second with
      | head => rfl
      | tail _ second =>
        have inside := partsInside later second
        simp only [Covers, stop] at same
        omega
    | tail _ first =>
      cases second with
      | head =>
        have inside := partsInside later first
        simp only [Covers, stop] at same
        omega
      | tail _ second => exact ih first second

theorem partsFound (parts : Parts number start lines text) (filled : text ≠ [])
    (above : start ≤ offset) (below : offset ≤ start + text.length) :
    ∃ line ∈ lines, (lines.takeWhile fun line => decide (line.start ≤ offset)).getLast? = some line ∧
      line.start ≤ offset ∧
      (offset < line.stop ∨ offset = line.stop ∧ offset = start + text.length) := by
  induction parts with
  | nil => contradiction
  | @cons number start lines text rest _ later ih =>
    rw [List.length_append] at below
    rw [List.takeWhile_cons, if_pos (decide_eq_true above), List.getLast?_cons, List.length_append]
    by_cases further : rest ≠ [] ∧ start + text.length ≤ offset
    · obtain ⟨line, member, found, before, after⟩ := ih further.1 further.2 (by omega)
      rw [found]
      exact ⟨line, List.mem_cons_of_mem _ member, rfl, before, by omega⟩
    · rw [not_and_or, not_not, Nat.not_le] at further
      have none : lines.takeWhile (fun line => decide (line.start ≤ offset)) = [] := by
        cases later with
        | nil => rfl
        | cons apart _ =>
          rw [List.takeWhile_cons, if_neg]
          rcases further with bare | before
          · exact absurd (List.append_eq_nil_iff.mp bare).1 apart
          · simpa using before
      rw [none]
      refine ⟨_, List.mem_cons_self, rfl, above, ?_⟩
      simp only [stop]
      rcases further with rfl | before
      · rw [List.length_nil] at below ⊢
        omega
      · exact .inl before

theorem atOutside : at? text offset = none ↔ text = [] ∨ text.length < offset := by
  rw [at?]
  by_cases below : offset ≤ text.length
  · rw [if_pos below]
    by_cases bare : text = []
    · subst bare
      exact ⟨fun _ => .inl rfl, fun _ => rfl⟩
    · obtain ⟨line, _, found, _⟩ :=
        partsFound (splitParts text) bare (Nat.zero_le offset) (by omega)
      rw [found]
      simp [bare, below]
  · rw [if_neg below]
    exact ⟨fun _ => .inr (Nat.lt_of_not_le below), fun _ => rfl⟩

theorem atInside : (∃ line, at? text offset = some line) ↔ text ≠ [] ∧ offset ≤ text.length := by
  rw [← Option.isSome_iff_exists, Option.isSome_iff_ne_none, Ne, atOutside, not_or, Nat.not_lt]

theorem atFound (found : at? text offset = some l) :
    l ∈ split text ∧ l.start ≤ offset ∧
      (offset < l.stop ∨ offset = l.stop ∧ offset = text.length) := by
  obtain ⟨filled, below⟩ := atInside.mp ⟨l, found⟩
  obtain ⟨line, member, other, rest⟩ :=
    partsFound (splitParts text) filled (Nat.zero_le offset) (by omega)
  rw [at?, if_pos below, other] at found
  cases found
  exact ⟨member, by simpa using rest⟩

theorem atCovered (member : l ∈ split text) (covers : l.Covers offset) :
    at? text offset = some l := by
  obtain ⟨_, _, _, below⟩ := partsInside (splitParts text) member
  have inside : offset < text.length := by
    have before := covers.2
    omega
  have filled : text ≠ [] := List.ne_nil_of_length_pos (by omega)
  obtain ⟨line, found⟩ := atInside.mpr ⟨filled, Nat.le_of_lt inside⟩
  obtain ⟨other, above, behind⟩ := atFound found
  rw [found, partsUnique (splitParts text) other member (.inr ⟨⟨above, by omega⟩, covers⟩)]

theorem breakBlank {c : Char} (ends : isBreak c = true) : isBlank c = true := by
  simp only [isBreak, Bool.or_eq_true, beq_iff_eq] at ends
  rcases ends with (((((rfl | rfl) | rfl) | rfl) | rfl) | rfl) | rfl <;> decide

structure Ending (stop : Nat) (l : Line) (body breaks : List Char) : Prop where
  whole : l.text = body ++ breaks
  unbroken : ∀ c ∈ body, isBreak c = false
  broken : ∀ c ∈ breaks, isBreak c = true
  last : breaks = [] → l.stop = stop

inductive Begun : List Char → List Char → Prop where
  | body {taken text} (unbroken : ∀ c ∈ taken, isBreak c = false) : Begun taken text
  | returned {taken text} (unbroken : ∀ c ∈ taken, isBreak c = false) :
      Begun ('\r' :: taken) ('\n' :: text)

theorem splitOntoEnding (done : List Line) (number start : Nat) (taken text : List Char)
    (begun : Begun taken text) : ∀ l ∈ splitOnto done number start taken text,
      l ∈ done ∨ ∃ body breaks, Ending (start + taken.length + text.length) l body breaks := by
  fun_induction splitOnto done number start taken text with
  | case1 done number start taken none =>
    intro l member
    exact .inl (List.mem_reverse.mp member)
  | case2 done number start taken some =>
    intro l member
    cases begun with
    | body unbroken =>
      rw [List.mem_reverse, List.mem_cons] at member
      rcases member with rfl | earlier
      · refine .inr ⟨taken.reverse, [], ?_, by simpa using unbroken, by simp, fun _ => ?_⟩
        · rw [List.append_nil]
        · simp [stop]
      · exact .inl earlier
  | case3 done number start taken c rest inLine same ih =>
    have next : Begun (c :: taken) rest := by
      rcases same with ⟨rfl, feed⟩ | same
      · cases rest with
        | nil => contradiction
        | cons d rest =>
          cases feed
          cases begun with
          | body unbroken => exact .returned unbroken
      · cases begun with
        | body unbroken => exact .body (List.forall_mem_cons.mpr ⟨same, unbroken⟩)
        | returned => contradiction
    intro l member
    refine (ih next l member).imp_right fun found => ?_
    simpa [Nat.add_assoc, Nat.add_comm 1] using found
  | case4 done number start taken c rest inLine ends line ih =>
    intro l member
    have broken : isBreak c = true := by
      rw [← Bool.not_eq_false]
      exact fun other => ends (.inr other)
    rcases ih (.body (List.forall_mem_nil _)) l member with earlier | later
    · rcases List.mem_cons.mp earlier with rfl | earlier
      · right
        cases begun with
        | body unbroken =>
          exact ⟨taken.reverse, [c], List.reverse_cons, by simpa using unbroken,
            List.forall_mem_singleton.mpr broken,
            fun none => absurd none (List.cons_ne_nil _ _)⟩
        | @returned taken _ unbroken =>
          exact ⟨taken.reverse, ['\r', '\n'], by simp [line], by simpa using unbroken, by simp [isBreak],
            fun none => absurd none (List.cons_ne_nil _ _)⟩
      · exact .inl earlier
    · right
      simpa [line, stop, Nat.add_assoc, Nat.add_comm 1] using later

theorem splitEnding (member : l ∈ split text) : ∃ body breaks, Ending text.length l body breaks := by
  have found := splitOntoEnding [] 0 0 [] text (.body (List.forall_mem_nil _)) l member
  rw [List.length_nil, Nat.zero_add] at found
  exact found.resolve_left List.not_mem_nil

theorem trimmedAppend {left : List Char} (shown : ∀ c ∈ left.getLast?, isBlank c = false)
    (right : List Char) : ((left ++ right).reverse.dropWhile isBlank).reverse =
      left ++ (right.reverse.dropWhile isBlank).reverse := by
  have kept : left.reverse.dropWhile isBlank = left.reverse := by
    cases front : left.reverse with
    | nil => rfl
    | cons c more =>
      rw [← List.head?_reverse, front] at shown
      exact List.dropWhile_cons_of_neg (by simpa using shown)
  rw [List.reverse_append, List.dropWhile_append]
  split
  · next none => simp [List.isEmpty_iff.mp none, kept]
  · simp

theorem trimmedPrefix (l : Line) : l.trimmed <+: l.text := by
  have suffix := List.dropWhile_suffix isBlank (l := l.text.reverse)
  rwa [trimmed, ← List.reverse_suffix, List.reverse_reverse]

theorem trimmedUnbroken (member : l ∈ split text) : ∀ c ∈ l.trimmed, isBreak c = false := by
  obtain ⟨body, breaks, ending⟩ := splitEnding member
  have blank : ∀ c ∈ breaks.reverse, isBlank c = true := by
    intro c inside
    exact breakBlank (ending.broken c (List.mem_reverse.mp inside))
  intro c inside
  rw [trimmed, ending.whole, List.reverse_append, List.dropWhile_append_of_pos blank,
    List.mem_reverse] at inside
  exact ending.unbroken c (List.mem_reverse.mp ((List.dropWhile_suffix isBlank).subset inside))

theorem lastBroken (member : l ∈ split text) (inner : l.stop ≠ text.length) :
    ∃ c, l.text.getLast? = some c ∧ isBreak c = true := by
  obtain ⟨body, breaks, ending⟩ := splitEnding member
  have some : breaks ≠ [] := fun none => inner (ending.last none)
  refine ⟨breaks.getLast some, ?_, ending.broken _ (List.getLast_mem some)⟩
  rw [ending.whole, List.getLast?_append, List.getLast?_eq_some_getLast some]
  rfl

theorem unbrokenWhole {before slice after : List Char} (whole : text = before ++ (slice ++ after))
    (unbroken : ∀ c ∈ slice, isBreak c = false) (member : l ∈ split text)
    (covers : l.Covers before.length) :
    ∃ head tail, l.text = head ++ (slice ++ tail) ∧ l.start + head.length = before.length := by
  obtain ⟨front, back, parts, place⟩ := partsSlice (splitParts text) member
  rw [Nat.zero_add] at place
  obtain ⟨above, below⟩ := covers
  rw [stop] at below
  obtain ⟨head, rfl⟩ : front <+: before :=
    List.prefix_of_prefix_length_le ⟨_, parts.symm⟩ ⟨_, whole.symm⟩ (by omega)
  rw [List.length_append] at below
  have same : l.text ++ back = head ++ (slice ++ after) := by
    rw [parts, List.append_assoc] at whole
    exact List.append_cancel_left whole
  obtain ⟨mid, line⟩ : head <+: l.text :=
    List.prefix_of_prefix_length_le ⟨_, same.symm⟩ ⟨_, rfl⟩ (by omega)
  rw [← line, List.append_assoc] at same
  have rest : mid ++ back = slice ++ after := List.append_cancel_left same
  obtain ⟨tail, rfl⟩ : slice <+: mid := by
    refine List.prefix_of_prefix_length_le ⟨_, rest.symm⟩ ⟨_, rfl⟩ (Nat.le_of_not_lt fun short => ?_)
    -- A line that ends among the characters would end with a break, which is one of them.
    obtain ⟨more, rfl⟩ : mid <+: slice :=
      List.prefix_of_prefix_length_le ⟨_, rfl⟩ ⟨_, rest.symm⟩ (Nat.le_of_lt short)
    have filled : mid ≠ [] := by
      rintro rfl
      rw [← line, List.append_nil] at below
      omega
    have inner : l.stop ≠ text.length := by
      rw [whole, stop, ← place, ← line]
      simp only [List.length_append] at short ⊢
      omega
    obtain ⟨c, last, broken⟩ := lastBroken member inner
    rw [← line, List.getLast?_append_of_ne_nil _ filled] at last
    rw [unbroken c (List.mem_append_left _ (List.mem_of_getLast? last))] at broken
    contradiction
  exact ⟨head, tail, line.symm, by rw [List.length_append, place]⟩

theorem shownWhole {before slice after : List Char} (whole : text = before ++ (slice ++ after))
    (filled : slice ≠ []) (shown : ∀ c ∈ slice, isBlank c = false) (member : l ∈ split text)
    (covers : l.Covers before.length) :
    ∃ head tail, l.trimmed = head ++ (slice ++ tail) ∧ l.start + head.length = before.length := by
  have unbroken : ∀ c ∈ slice, isBreak c = false := by
    intro c inside
    rw [← Bool.not_eq_true]
    intro broken
    have blank := breakBlank broken
    rw [shown c inside] at blank
    contradiction
  obtain ⟨head, tail, line, place⟩ := unbrokenWhole whole unbroken member covers
  refine ⟨head, (tail.reverse.dropWhile isBlank).reverse, ?_, place⟩
  have last : ∀ c ∈ (head ++ slice).getLast?, isBlank c = false := by
    intro c ends
    rw [List.getLast?_append_of_ne_nil _ filled] at ends
    exact shown c (List.mem_of_getLast? ends)
  rw [trimmed, line, ← List.append_assoc, trimmedAppend last, List.append_assoc]

end ModalLexer.Text.Line

import Mathlib.Data.List.Infix
import ShareCheck.Text.Blank
import ShareCheck.Text.Search

set_option autoImplicit false

namespace ShareCheck.Text

section

variable {α : Type}

theorem infix_skip {piece skipped rest : List α} (nonempty : piece ≠ [])
    (apart : ∀ x ∈ skipped, piece.head? ≠ some x) :
    piece <:+: skipped ++ rest ↔ piece <:+: rest := by
  induction skipped with
  | nil => rfl
  | cons x skipped ih =>
    have here : ¬ piece <+: x :: (skipped ++ rest) := by
      intro found
      obtain ⟨y, tail, rfl⟩ := List.exists_cons_of_ne_nil nonempty
      exact apart x (by simp) (by simp [(List.cons_prefix_cons.1 found).1])
    have later := ih fun y member => apart y (List.mem_cons_of_mem x member)
    simp [List.infix_cons_iff, here, later]

theorem infix_separated {piece : List α} {x : α} (nonempty : piece ≠ []) (apart : x ∉ piece)
    (first rest : List α) :
    piece <:+: first ++ x :: rest ↔ piece <:+: first ∨ piece <:+: rest := by
  have later : piece <:+: x :: rest ↔ piece <:+: rest := by
    apply @infix_skip _ piece [x] rest nonempty
    intro y member same
    obtain rfl := List.mem_singleton.1 member
    exact apart (List.mem_of_mem_head? same)
  rw [List.infix_append_iff_ne_nil, later]
  constructor
  next =>
    rintro (within | within | ⟨before, after, -, some, rfl, -, begins⟩)
    · exact .inl within
    · exact .inr within
    · obtain ⟨y, tail, rfl⟩ := List.exists_cons_of_ne_nil some
      obtain ⟨rfl, -⟩ := List.cons_prefix_cons.1 begins
      simp at apart
  next =>
    rintro (within | within)
    · exact .inl within
    · exact .inr (.inl within)

variable [BEq α] [LawfulBEq α]

theorem splitOnce_some {x : α} {text left right : List α} :
    splitOnce x text = some (left, right) ↔ text = left ++ x :: right ∧ x ∉ left := by
  induction text generalizing left with
  | nil => simp [splitOnce]
  | cons y text ih =>
    by_cases same : y = x
    next =>
      cases left with
      | nil => simp [splitOnce, same, eq_comm]
      | cons z left => simp [splitOnce, same]; grind
    next =>
      cases left with
      | nil => simp [splitOnce, same]
      | cons z left => simp [splitOnce, same, ih]; grind

theorem splitOnce_none {x : α} {text : List α} : splitOnce x text = none ↔ x ∉ text := by
  induction text with
  | nil => simp [splitOnce]
  | cons y text ih =>
    by_cases same : y = x
    next => simp [splitOnce, same]
    next => simp [splitOnce, same, ih, Ne.symm same]

theorem occurs_intercalate {piece : List α} {x : α} (nonempty : piece ≠ []) (apart : x ∉ piece)
    (parts : List (List α)) :
    occurs piece ([x].intercalate parts) = parts.any (occurs piece) := by
  induction parts with
  | nil =>
    cases piece with
    | nil => exact absurd rfl nonempty
    | cons y piece => rfl
  | cons part parts ih =>
    cases parts with
    | nil => simp
    | cons next parts =>
      have joined : [x].intercalate (part :: next :: parts) =
          part ++ x :: [x].intercalate (next :: parts) := by simp
      rw [joined, List.any_cons, ← ih, Bool.eq_iff_iff, Bool.or_eq_true, occurs_iff, occurs_iff,
        occurs_iff]
      exact infix_separated nonempty apart part _

theorem occurs_mono {piece inner outer : List α} (within : inner <:+: outer)
    (found : occurs piece inner = true) : occurs piece outer = true :=
  (occurs_iff piece outer).2 (((occurs_iff piece inner).1 found).trans within)

omit [LawfulBEq α] in
theorem before_begins (piece text : List α) : before piece text <+: text := by
  induction text with
  | nil => exact List.nil_prefix
  | cons x xs ih =>
    unfold before
    split
    · exact List.nil_prefix
    · exact List.cons_prefix_cons.2 ⟨rfl, ih⟩

theorem not_infix_before {piece : List α} (nonempty : piece ≠ []) (text : List α) :
    ¬ piece <:+: before piece text := by
  induction text with
  | nil => simpa [before] using nonempty
  | cons x xs ih =>
    unfold before
    split
    next => simpa using nonempty
    next absent =>
      intro found
      rcases List.infix_cons_iff.1 found with here | later
      next =>
        have kept : x :: before piece xs <+: x :: xs :=
          List.cons_prefix_cons.2 ⟨rfl, before_begins piece xs⟩
        exact absent (List.isPrefixOf_iff_prefix.2 (here.trans kept))
      next => exact ih later

end

theorem head?_trimStart (text : List Char) : ∀ c ∈ (trimStart text).head?, isBlank c = false := by
  induction text with
  | nil => simp [trimStart]
  | cons x xs ih =>
    unfold trimStart at ih ⊢
    by_cases blank : isBlank x = true
    next => simpa [List.dropWhile_cons, blank] using ih
    next => simp [blank]

theorem trimStart_ends (text : List Char) : trimStart text <:+ text := List.dropWhile_suffix _

theorem trimEnd_begins (text : List Char) : trimEnd text <+: text := by
  have suffix := @List.dropWhile_suffix _ text.reverse isBlank
  simpa [trimEnd] using List.reverse_prefix.2 suffix

theorem getLast?_trimEnd (text : List Char) : ∀ c ∈ (trimEnd text).getLast?, isBlank c = false := by
  have first := head?_trimStart text.reverse
  simpa [trimEnd, trimStart] using first

theorem trimStart_append {blanks text : List Char} (blank : ∀ c ∈ blanks, isBlank c = true)
    (starts : ∀ c ∈ text.head?, isBlank c = false) : trimStart (blanks ++ text) = text := by
  have here : text.dropWhile isBlank = text := by
    cases text with
    | nil => rfl
    | cons x xs => simp [starts x rfl]
  rw [trimStart, List.dropWhile_append_of_pos blank, here]

theorem trimStart_blank {blanks : List Char} (blank : ∀ c ∈ blanks, isBlank c = true) :
    trimStart blanks = [] := by
  simpa using @trimStart_append blanks [] blank (by simp)

theorem trimEnd_eq_self {text : List Char} (ends : ∀ c ∈ text.getLast?, isBlank c = false) :
    trimEnd text = text := by
  have kept := @trimStart_append [] text.reverse (by simp) (by simpa using ends)
  simpa [trimStart, trimEnd] using congrArg List.reverse kept

def chomp (line : List Char) : List Char :=
  if line.getLast? = some '\r' then line.dropLast else line

theorem chomp_begins (line : List Char) : chomp line <+: line := by
  unfold chomp
  split
  · exact List.dropLast_prefix line
  · exact List.prefix_rfl

theorem chomp_append {first second : List Char} (nonempty : second ≠ []) :
    chomp (first ++ second) = first ++ chomp second := by
  unfold chomp
  rw [List.getLast?_append_of_ne_nil first nonempty, List.dropLast_append_of_ne_nil nonempty]
  split <;> rfl

theorem lines_go_feed (taken rest : List Char) :
    lines.go taken ('\n' :: rest) = chomp taken.reverse :: lines rest := by
  unfold chomp
  cases taken with
  | nil => simp [lines.go, lines]
  | cons c taken =>
    by_cases ret : c = '\r'
    next => subst ret; simp [lines.go, lines]
    next => simp [lines.go, lines, ret]

theorem lines_go_skip {line : List Char} (single : '\n' ∉ line) (taken rest : List Char) :
    lines.go taken (line ++ rest) = lines.go (line.reverse ++ taken) rest := by
  induction line generalizing taken with
  | nil => rfl
  | cons c line ih =>
    have other : c ≠ '\n' := fun same => single (by simp [same])
    have next := ih (fun member => single (List.mem_cons_of_mem c member)) (c :: taken)
    rw [List.cons_append, lines.go, next]
    · simp
    · exact other
    · exact fun _ _ => other

theorem lines_feed {line : List Char} (single : '\n' ∉ line) (rest : List Char) :
    lines (line ++ '\n' :: rest) = chomp line :: lines rest := by
  have skipped := lines_go_skip single [] ('\n' :: rest)
  rw [lines, skipped, lines_go_feed]
  simp

theorem lines_last {line : List Char} (single : '\n' ∉ line) (nonempty : line ≠ []) :
    lines line = [line] := by
  have skipped := lines_go_skip single [] []
  rw [List.append_nil, List.append_nil] at skipped
  rw [lines, skipped]
  obtain ⟨c, more, same⟩ := List.exists_cons_of_ne_nil (List.reverse_ne_nil_iff.2 nonempty)
  rw [same, lines.go, ← same, List.reverse_reverse]
  simp

theorem lines_go_single (taken text : List Char) (single : '\n' ∉ taken) :
    ∀ line ∈ lines.go taken text, '\n' ∉ line := by
  induction text generalizing taken with
  | nil => cases taken <;> simp_all [lines.go]
  | cons c text ih =>
    by_cases feed : c = '\n'
    next =>
      subst feed
      rw [lines_go_feed]
      intro line member
      rcases List.mem_cons.1 member with rfl | member
      · exact fun found => single (List.mem_reverse.1 ((chomp_begins _).subset found))
      · exact ih [] (by simp) line member
    next =>
      have skipped := @lines_go_skip [c] (by simpa using Ne.symm feed) taken text
      rw [List.singleton_append] at skipped
      rw [skipped]
      apply ih
      simpa using ⟨Ne.symm feed, single⟩

theorem lines_single {text line : List Char} (member : line ∈ lines text) : '\n' ∉ line :=
  lines_go_single [] text (by simp) line member

end ShareCheck.Text

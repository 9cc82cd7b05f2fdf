import ShareCheck.Proofs.Text.Search
import ShareCheck.Smbclient.Listing

set_option autoImplicit false

namespace ShareCheck.Smbclient

def footer : List Char := "blocks of size".toList

structure FileName (name : List Char) : Prop where
  nonempty : name ≠ []
  starts : ∀ c ∈ name.head?, Text.isBlank c = false
  ends : ∀ c ∈ name.getLast?, Text.isBlank c = false
  unbroken : ¬ [' ', ' '] <:+: name
  single : '\n' ∉ name
  notHere : name ≠ ['.']
  notAbove : name ≠ ['.', '.']
  plain : ¬ footer <:+: name

theorem unblank_iff (edge : Option Char) :
    edge.any Text.isBlank = false ↔ ∀ c ∈ edge, Text.isBlank c = false := by
  cases edge <;> simp

instance (name : List Char) : Decidable (FileName name) :=
  -- Only the two ends are looked at: a quantifier over characters may go through all of them.
  decidable_of_iff (name ≠ [] ∧ name.head?.any Text.isBlank = false ∧
      name.getLast?.any Text.isBlank = false ∧ ¬ [' ', ' '] <:+: name ∧ '\n' ∉ name ∧
      name ≠ ['.'] ∧ name ≠ ['.', '.'] ∧ ¬ footer <:+: name)
    ⟨fun ⟨a, b, c, d, e, f, g, h⟩ =>
        ⟨a, (unblank_iff _).1 b, (unblank_iff _).1 c, d, e, f, g, h⟩,
      fun ⟨a, b, c, d, e, f, g, h⟩ =>
        ⟨a, (unblank_iff _).2 b, (unblank_iff _).2 c, d, e, f, g, h⟩⟩

/-! ### Names that come out -/

theorem entryName_prefix_trimmed (line : List Char) : entryName line <+: Text.trimStart line :=
  (Text.trimEnd_begins _).trans (Text.before_begins _ _)

theorem fileName_of_entry {line : List Char} (single : '\n' ∉ line) (entry : isEntry line = true)
    (kept : isFileName (entryName line) = true) : FileName (entryName line) := by
  have within : entryName line <:+: line :=
    (entryName_prefix_trimmed line).isInfix.trans (Text.trimStart_ends line).isInfix
  simp only [isFileName, Bool.and_eq_true, bne_iff_ne] at kept
  simp only [isEntry, Bool.and_eq_true, Bool.not_eq_true'] at entry
  obtain ⟨⟨nonempty, notHere⟩, notAbove⟩ := kept
  constructor
  next => exact nonempty
  next =>
    intro c first
    apply Text.head?_trimStart line c
    obtain ⟨d, name, same⟩ := List.exists_cons_of_ne_nil nonempty
    obtain ⟨rest, whole⟩ := entryName_prefix_trimmed line
    rw [same] at whole first
    rw [← whole]
    exact first
  next => exact Text.getLast?_trimEnd _
  next =>
    intro found
    apply @Text.not_infix_before _ _ _ [' ', ' '] (by simp) (Text.trimStart line)
    exact found.trans (Text.trimEnd_begins _).isInfix
  next => exact fun found => single (within.subset found)
  next => exact notHere
  next => exact notAbove
  next =>
    intro found
    have absent : Text.occurs footer line = false := entry.2
    have mentioned := (Text.occurs_iff footer line).2 (found.trans within)
    exact Bool.false_ne_true (absent.symm.trans mentioned)

/-! ### Lines that are printed -/

/-- Two blanks, the name, at least two blanks, and whatever is told of the file. -/
def entryLine (name : List Char) (padding : Nat) (attributes : List Char) : List Char :=
  [' ', ' '] ++ (name ++ (List.replicate (padding + 2) ' ' ++ attributes))

structure FileLine where
  name : String
  padding : Nat
  attributes : List Char
  named : FileName name.toList
  single : '\n' ∉ attributes
  plain : ¬ footer <:+: attributes

def FileLine.text (f : FileLine) : List Char := entryLine f.name.toList f.padding f.attributes

inductive Aside : List Char → Prop
  | directory {name : List Char} (padding : Nat) (attributes : List Char) :
      name = ['.'] ∨ name = ['.', '.'] → Aside (entryLine name padding attributes)
  | blank {line : List Char} : (∀ c ∈ line, Text.isBlank c = true) → Aside line
  | flush {line : List Char} : ¬ [' ', ' '] <+: line → Aside line
  | footer {line : List Char} : footer <:+: line → Aside line

inductive Listing : List (List Char) → List FileLine → Prop
  | nil : Listing [] []
  | file {lines : List (List Char)} {files : List FileLine} (f : FileLine) :
      Listing lines files → Listing (f.text :: lines) (f :: files)
  | aside {line : List Char} {lines : List (List Char)} {files : List FileLine} :
      Aside line → '\n' ∉ line → Listing lines files → Listing (line :: lines) files

/-- What two blanks next to each other cannot be a part of. -/
structure Solid (piece : List Char) : Prop where
  starts : piece.head? ≠ some ' '
  ends : piece.getLast? ≠ some ' '
  unbroken : ¬ [' ', ' '] <:+: piece

instance (piece : List Char) : Decidable (Solid piece) :=
  decidable_of_iff (piece.head? ≠ some ' ' ∧ piece.getLast? ≠ some ' ' ∧ ¬ [' ', ' '] <:+: piece)
    ⟨fun ⟨a, b, c⟩ => ⟨a, b, c⟩, fun ⟨a, b, c⟩ => ⟨a, b, c⟩⟩

theorem isBlank_space : Text.isBlank ' ' = true := by decide

theorem infix_entryLine {piece : List Char} (nonempty : piece ≠ []) (solid : Solid piece)
    (name : List Char) (padding : Nat) (attributes : List Char) :
    piece <:+: entryLine name padding attributes ↔ piece <:+: name ∨ piece <:+: attributes := by
  have skip {blanks rest : List Char} (blank : ∀ c ∈ blanks, c = ' ') :
      piece <:+: blanks ++ rest ↔ piece <:+: rest := by
    apply Text.infix_skip nonempty
    intro c member
    rw [blank c member]
    exact solid.starts
  rw [entryLine, skip (by simp), List.infix_append_iff_ne_nil,
    skip fun c member => List.eq_of_mem_replicate member]
  constructor
  next =>
    rintro (within | within | ⟨first, second, -, some, rfl, -, begins⟩)
    · exact .inl within
    · exact .inr within
    · -- What goes beyond the name ends in a blank or has two of them.
      rw [List.replicate_succ, List.replicate_succ] at begins
      rcases second with _ | ⟨c, _ | ⟨d, second⟩⟩
      · exact absurd rfl some
      · obtain ⟨rfl, -⟩ := List.cons_prefix_cons.1 begins
        exact absurd (by simp) solid.ends
      · obtain ⟨rfl, next⟩ := List.cons_prefix_cons.1 begins
        obtain ⟨rfl, -⟩ := List.cons_prefix_cons.1 next
        exact absurd ⟨first, second, by simp⟩ solid.unbroken
  next =>
    rintro (within | within)
    · exact .inl within
    · exact .inr (.inl within)

theorem before_gap {name : List Char} (ends : name.getLast? ≠ some ' ')
    (unbroken : ¬ [' ', ' '] <:+: name) (rest : List Char) :
    Text.before [' ', ' '] (name ++ ' ' :: ' ' :: rest) = name := by
  induction name with
  | nil => simp [Text.before]
  | cons c name ih =>
    have here : ¬ [' ', ' '] <+: c :: (name ++ ' ' :: ' ' :: rest) := by
      intro found
      obtain ⟨rfl, next⟩ := List.cons_prefix_cons.1 found
      rcases name with _ | ⟨d, name⟩
      · exact ends rfl
      · obtain ⟨rfl, -⟩ := List.cons_prefix_cons.1 next
        exact unbroken ⟨[], name, rfl⟩
    have later : Text.before [' ', ' '] (name ++ ' ' :: ' ' :: rest) = name := by
      apply ih
      · intro last
        rw [List.getLast?_cons, last] at ends
        exact ends rfl
      · exact fun found => unbroken (found.trans (List.infix_cons List.infix_rfl))
    rw [List.cons_append, Text.before, if_neg (by simpa using here), later]

theorem entryName_entryLine {name : List Char} (nonempty : name ≠ [])
    (starts : ∀ c ∈ name.head?, Text.isBlank c = false)
    (ends : ∀ c ∈ name.getLast?, Text.isBlank c = false) (unbroken : ¬ [' ', ' '] <:+: name)
    (padding : Nat) (attributes : List Char) :
    entryName (entryLine name padding attributes) = name := by
  have trimmed : Text.trimStart (entryLine name padding attributes) =
      name ++ (List.replicate (padding + 2) ' ' ++ attributes) := by
    apply Text.trimStart_append (by simp [isBlank_space])
    rw [List.head?_append_of_ne_nil name nonempty]
    exact starts
  have cut := before_gap (fun same => by simpa [isBlank_space] using ends ' ' same) unbroken
    (List.replicate padding ' ' ++ attributes)
  rw [entryName, trimmed, List.replicate_succ, List.replicate_succ, List.cons_append,
    List.cons_append, cut]
  exact Text.trimEnd_eq_self ends

theorem isEntry_entryLine {name attributes : List Char} (padding : Nat)
    (name_plain : ¬ footer <:+: name) (plain : ¬ footer <:+: attributes) :
    isEntry (entryLine name padding attributes) = true := by
  have solid : Solid footer := by decide +kernel
  have absent : Text.occurs footer (entryLine name padding attributes) = false := by
    rw [Bool.eq_false_iff, Ne, Text.occurs_iff, infix_entryLine (by decide) solid]
    exact not_or.2 ⟨name_plain, plain⟩
  rw [isEntry, Bool.and_eq_true, Bool.not_eq_true']
  exact ⟨rfl, absent⟩

/-! ### Lines that are read -/

def namesOf (line : List Char) : List (List Char) :=
  if isEntry line && isFileName (entryName line) then [entryName line] else []

theorem entries_eq (output : List Char) :
    entries output = ((Text.lines output).flatMap namesOf).map String.ofList := by
  have each (lines : List (List Char)) :
      ((lines.filter isEntry).map entryName).filter isFileName = lines.flatMap namesOf := by
    induction lines with
    | nil => rfl
    | cons line lines ih =>
      by_cases entry : isEntry line <;> by_cases kept : isFileName (entryName line) <;>
        simp [namesOf, entry, kept, ih]
  rw [entries, each]

theorem namesOf_file (f : FileLine) : namesOf f.text = [f.name.toList] := by
  have named := f.named
  have name : entryName f.text = f.name.toList :=
    entryName_entryLine named.nonempty named.starts named.ends named.unbroken f.padding f.attributes
  have kept : isFileName f.name.toList = true := by
    simp [isFileName, named.nonempty, named.notHere, named.notAbove]
  have entry : isEntry f.text = true := isEntry_entryLine f.padding named.plain f.plain
  simp [namesOf, entry, name, kept]

theorem namesOf_aside {line : List Char} (aside : Aside line) : namesOf line = [] := by
  cases aside with
  | @directory name padding attributes directory =>
    have dot : Text.isBlank '.' = false := by decide
    have same : entryName (entryLine name padding attributes) = name := by
      rcases directory with rfl | rfl <;>
        exact entryName_entryLine (by simp) (by simp [dot]) (by simp [dot]) (by decide) padding
          attributes
    have dropped : isFileName name = false := by
      rcases directory with rfl | rfl <;> rfl
    simp [namesOf, same, dropped]
  | blank blank =>
    have empty : entryName line = [] := by
      rw [entryName, Text.trimStart_blank blank]
      rfl
    simp [namesOf, empty, isFileName]
  | flush flush =>
    have outside : isEntry line = false := by
      have start : [' ', ' '].isPrefixOf line = false := by
        rw [Bool.eq_false_iff, Ne, List.isPrefixOf_iff_prefix]
        exact flush
      rw [isEntry, start, Bool.false_and]
    simp [namesOf, outside]
  | footer found =>
    have mentioned : Text.occurs "blocks of size".toList line = true :=
      (Text.occurs_iff footer line).2 found
    have outside : isEntry line = false := by
      rw [isEntry, mentioned, Bool.not_true, Bool.and_false]
    simp [namesOf, outside]

/-! ### Carriage returns -/

theorem chomp_entryLine (name : List Char) (padding : Nat) (attributes : List Char) :
    Text.chomp (entryLine name padding attributes) =
      entryLine name padding (Text.chomp attributes) := by
  have gap : Text.chomp (List.replicate (padding + 2) ' ' ++ attributes) =
      List.replicate (padding + 2) ' ' ++ Text.chomp attributes := by
    by_cases none : attributes = []
    next => simp [none, Text.chomp, List.getLast?_replicate]
    next => exact Text.chomp_append none
  rw [entryLine, Text.chomp_append (by simp), Text.chomp_append (by simp), gap]
  rfl

def FileLine.chomped (f : FileLine) : FileLine where
  name := f.name
  padding := f.padding
  attributes := Text.chomp f.attributes
  named := f.named
  single found := f.single ((Text.chomp_begins _).subset found)
  plain found := f.plain (found.trans (Text.chomp_begins _).isInfix)

theorem Aside.chomped {line : List Char} (aside : Aside line) : Aside (Text.chomp line) := by
  cases aside with
  | directory padding attributes directory =>
    rw [chomp_entryLine]
    exact .directory padding _ directory
  | blank blank => exact .blank fun c member => blank c ((Text.chomp_begins line).subset member)
  | flush flush => exact .flush fun found => flush (found.trans (Text.chomp_begins line))
  | footer found =>
    apply Aside.footer
    unfold Text.chomp
    split
    next last =>
      have whole : line = line.dropLast ++ ['\r'] :=
        (List.dropLast_append_getLast? '\r' last).symm
      rw [whole, Text.infix_separated (by decide) (by decide)] at found
      exact found.resolve_right (by decide)
    next => exact found

theorem namesOf_nil : namesOf [] = [] := rfl

theorem namesOf_lines_cons {line : List Char} (single : '\n' ∉ line)
    (chomped : namesOf (Text.chomp line) = namesOf line) (lines : List (List Char)) :
    (Text.lines (['\n'].intercalate (line :: lines))).flatMap namesOf =
      namesOf line ++ (Text.lines (['\n'].intercalate lines)).flatMap namesOf := by
  have none : Text.lines [] = [] := rfl
  cases lines with
  | nil =>
    by_cases empty : line = []
    next => simp [empty, none, namesOf_nil]
    next => simp [Text.lines_last single empty, none]
  | cons next lines =>
    have joined : ['\n'].intercalate (line :: next :: lines) =
        line ++ '\n' :: ['\n'].intercalate (next :: lines) := by simp
    rw [joined, Text.lines_feed single, List.flatMap_cons, chomped]

theorem Listing.names {lines : List (List Char)} {files : List FileLine}
    (listed : Listing lines files) :
    (Text.lines (['\n'].intercalate lines)).flatMap namesOf =
      files.map fun f => f.name.toList := by
  induction listed with
  | nil => rfl
  | file f _ ih =>
    have single : '\n' ∉ f.text := by
      simp [FileLine.text, entryLine, f.named.single, f.single]
    have chomped : namesOf (Text.chomp f.text) = namesOf f.text := by
      rw [FileLine.text, chomp_entryLine]
      exact (namesOf_file f.chomped).trans (namesOf_file f).symm
    rw [namesOf_lines_cons single chomped, namesOf_file, ih]
    rfl
  | aside aside single _ ih =>
    have none := namesOf_aside aside
    have chomped := (namesOf_aside aside.chomped).trans none.symm
    rw [namesOf_lines_cons single chomped, none, ih]
    rfl

theorem Listing.entries {lines : List (List Char)} {files : List FileLine}
    (listed : Listing lines files) :
    Smbclient.entries (['\n'].intercalate lines) = files.map FileLine.name := by
  rw [entries_eq, listed.names, List.map_map]
  exact List.map_congr_left fun f _ => String.ofList_toList

/-- Reading a listing gives well-formed names only, and gives back the names that were printed. The
last line may end with a line feed: then an empty one follows it. -/
theorem entries_exact :
    (∀ output, ∀ name ∈ entries output, FileName name.toList) ∧
      ∀ lines files, Listing lines files →
        entries (['\n'].intercalate lines) = files.map FileLine.name := by
  constructor
  next =>
    intro output name member
    simp only [entries, List.mem_map, List.mem_filter] at member
    obtain ⟨-, ⟨⟨line, ⟨listed, entry⟩, rfl⟩, kept⟩, rfl⟩ := member
    rw [String.toList_ofList]
    exact fileName_of_entry (Text.lines_single listed) entry kept
  next => exact fun lines files listed => listed.entries

def probeLine : FileLine where
  name := "e2e-probe-0000abcd.txt"
  padding := 3
  attributes := "A  26".toList
  named := by decide +kernel
  single := by decide
  plain := by decide +kernel

def notesLine : FileLine where
  name := "My Notes.txt"
  padding := 0
  attributes := "A   5\r".toList
  named := by decide +kernel
  single := by decide
  plain := by decide +kernel

theorem entries_exact_notes :
    ∃ lines, Listing lines [probeLine, notesLine] ∧
      String.ofList (['\n'].intercalate lines) = "  .  D\n  ..  D\n" ++
        "  e2e-probe-0000abcd.txt     A  26\n  My Notes.txt  A   5\r\n" ++
        "\n\t\t1039776 blocks of size 1024\n" ∧
      entries (['\n'].intercalate lines) = ["e2e-probe-0000abcd.txt", "My Notes.txt"] := by
  have directory (name : List Char) (dots : name = ['.'] ∨ name = ['.', '.']) :
      Aside (entryLine name 0 ['D']) := .directory 0 _ dots
  have empty : Aside [] := .blank (by simp)
  have room : Aside "\t\t1039776 blocks of size 1024".toList :=
    .flush (by decide)
  have listed := Listing.aside (directory ['.'] (.inl rfl)) (by decide)
    (.aside (directory ['.', '.'] (.inr rfl)) (by decide) (.file probeLine (.file notesLine
      (.aside empty (by simp) (.aside room (by decide) (.aside empty (by simp) .nil))))))
  exact ⟨_, listed, by decide +kernel, entries_exact.2 _ _ listed⟩

end ShareCheck.Smbclient

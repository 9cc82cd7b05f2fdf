import ShareCheck.Proofs.Text.Utf8

set_option autoImplicit false

namespace ShareCheck.Text

theorem encode_append (text more : List Char) :
    encode (text ++ more) = encode text ++ encode more :=
  List.flatMap_append

theorem encode_begins {start text : List Char} (begins : start <+: text) :
    encode start <+: encode text := by
  obtain ⟨rest, rfl⟩ := begins
  exact ⟨encode rest, (encode_append start rest).symm⟩

theorem utf8EncodeChar_append_inj {c d : Char} {rest more : Bytes}
    (same : String.utf8EncodeChar c ++ rest = String.utf8EncodeChar d ++ more) :
    c = d ∧ rest = more := by
  obtain ⟨b, tail, one, read⟩ := Utf8.first_encode c
  obtain ⟨b', tail', other, read'⟩ := Utf8.first_encode d
  rw [one, other, List.cons_append, List.cons_append, List.cons.injEq] at same
  obtain ⟨rfl, same⟩ := same
  have both : (some c, tail.length) = (some d, tail'.length) := by
    rw [← read rest, ← read' more, same]
  simp only [Prod.mk.injEq, Option.some.injEq] at both
  exact ⟨both.1, (List.append_inj same both.2).2⟩

theorem encode_eq_append {text before : List Char} {rest : Bytes}
    (same : encode text = encode before ++ rest) :
    ∃ more, text = before ++ more ∧ rest = encode more := by
  induction before generalizing text with
  | nil => exact ⟨text, rfl, same.symm⟩
  | cons c before ih =>
    cases text with
    | nil =>
      obtain ⟨b, tail, encoded, -⟩ := Utf8.first_encode c
      simp [encode, encoded] at same
    | cons d text =>
      simp only [encode, List.flatMap_cons, List.append_assoc] at same
      obtain ⟨rfl, left⟩ := utf8EncodeChar_append_inj same
      obtain ⟨more, rfl, encoded⟩ := ih left
      exact ⟨more, rfl, encoded⟩

theorem mem_encode {c : Char} (ascii : c.toNat < 128) (text : List Char) :
    UInt8.ofNat c.toNat ∈ encode text ↔ c ∈ text := by
  have alone : Ascii [c] := by
    intro d member
    rwa [List.mem_singleton.1 member]
  have found := occurs_decodeLossy (List.cons_ne_nil c []) alone (encode text)
  rw [decodeLossy_encode, Bool.eq_iff_iff, occurs_iff, occurs_iff, encode_ascii alone] at found
  simpa [List.singleton_infix_iff] using found.symm

theorem utf8EncodeChar_lt {c d : Char} (before : c < d) (rest more : Bytes) :
    String.utf8EncodeChar c ++ rest < String.utf8EncodeChar d ++ more := by
  have less : c.val.toNat < d.val.toNat := before
  have bound : d.val.toNat < 0x110000 := by
    have valid : d.val.toNat < 0xd800 ∨ 0xdfff < d.val.toNat ∧ d.val.toNat < 0x110000 := d.valid
    omega
  unfold String.utf8EncodeChar
  dsimp only
  generalize c.val.toNat = v at less
  generalize d.val.toNat = w at less bound
  have last : v / 64 < w / 64 ∨ v / 64 = w / 64 ∧ v % 64 < w % 64 := by omega
  have middle (higher : v / 64 < w / 64) :
      v / 4096 < w / 4096 ∨ v / 4096 = w / 4096 ∧ v / 64 % 64 < w / 64 % 64 := by omega
  have first (higher : v / 4096 < w / 4096) :
      v / 262144 < w / 262144 ∨ v / 262144 = w / 262144 ∧ v / 4096 % 64 < w / 4096 % 64 := by omega
  have lead (u : Nat) (small : u < 0x110000) : u / 262144 % 8 = u / 262144 :=
    Nat.mod_eq_of_lt (by omega)
  -- A character with more bytes has the greater lead; between equally many, the first byte that
  -- differs decides.
  split_ifs
  all_goals
    simp (disch := omega) only [List.cons_append, List.cons_lt_cons_iff, UInt8.lt_iff_toNat_lt,
      ← UInt8.toNat_inj, Utf8.toNat_byte, lead]
    omega

theorem encode_lt {text other : List Char} (before : text < other) :
    encode text < encode other := by
  induction text generalizing other with
  | nil =>
    cases other with
    | nil => exact absurd before (List.lt_irrefl _)
    | cons d other =>
      obtain ⟨b, tail, encoded, -⟩ := Utf8.first_encode d
      simp [encode, encoded]
  | cons c text ih =>
    cases other with
    | nil => exact absurd before (List.not_lt_nil _)
    | cons d other =>
      simp only [encode, List.flatMap_cons]
      obtain first | ⟨rfl, later⟩ := List.cons_lt_cons_iff.1 before
      next => exact utf8EncodeChar_lt first _ _
      next => exact List.append_left_lt (ih later)

end ShareCheck.Text

import Mathlib.Data.List.Infix
import ShareCheck.Proofs.Text.Search
import ShareCheck.Text.Utf8

set_option autoImplicit false

namespace ShareCheck.Text

namespace Utf8

theorem toNat_byte {n : Nat} (fits : n < 256) : (UInt8.ofNat n).toNat = n :=
  UInt8.toNat_ofNat_of_lt' fits

theorem trail_cases (value taken more : Nat) (rest : Bytes) :
    taken ≤ (trail value taken more rest).2 ∧
      (∀ b ∈ rest.take ((trail value taken more rest).2 - taken), 128 ≤ b.toNat) ∧
      ∀ v, (trail value taken more rest).1 = some v →
        value * Nat.pow 64 more ≤ v ∧ v < (value + 1) * Nat.pow 64 more := by
  induction more generalizing value taken rest with
  | zero => simp [trail]
  | succ more ih =>
    cases rest with
    | nil => simp [trail]
    | cons b rest =>
      unfold trail
      split
      next follows =>
        obtain ⟨further, high, bounds⟩ := ih (value * 64 + b.toNat % 64) (taken + 1) rest
        have least : 128 ≤ b.toNat := by
          simp only [Bool.and_eq_true, decide_eq_true_eq, UInt8.le_iff_toNat_le] at follows
          exact follows.1
        refine ⟨by omega, ?_, ?_⟩
        · intro x member
          rw [show (trail (value * 64 + b.toNat % 64) (taken + 1) more rest).2 - taken =
            (trail (value * 64 + b.toNat % 64) (taken + 1) more rest).2 - (taken + 1) + 1 by omega,
            List.take_succ_cons] at member
          rcases List.mem_cons.1 member with rfl | member
          · exact least
          · exact high x member
        · intro v found
          have digit : b.toNat % 64 < 64 := Nat.mod_lt _ (by decide)
          obtain ⟨low, above⟩ := bounds v found
          have power : Nat.pow 64 (more + 1) = 64 * Nat.pow 64 more := Nat.mul_comm _ _
          rw [power, ← Nat.mul_assoc, ← Nat.mul_assoc]
          exact ⟨(Nat.mul_le_mul_right _ (by omega)).trans low,
            above.trans_le (Nat.mul_le_mul_right _ (by omega))⟩
      next => simp

def least (lead second : UInt8) (more : Nat) : Nat :=
  (leadBits lead * 64 + second.toNat % 64) * Nat.pow 64 more

structure Sound (lead low high : UInt8) (more : Nat) : Prop where
  low_ge : 128 ≤ low.toNat
  high_lt : high.toNat < 192
  least_ge : 128 ≤ least lead low more
  valid : least lead high more + Nat.pow 64 more ≤ 0xd800 ∨
    0xe000 ≤ least lead low more ∧ least lead high more + Nat.pow 64 more ≤ 0x110000

instance (lead low high : UInt8) (more : Nat) : Decidable (Sound lead low high more) :=
  decidable_of_iff (128 ≤ low.toNat ∧ high.toNat < 192 ∧ 128 ≤ least lead low more ∧
      (least lead high more + Nat.pow 64 more ≤ 0xd800 ∨
        0xe000 ≤ least lead low more ∧ least lead high more + Nat.pow 64 more ≤ 0x110000))
    ⟨fun ⟨a, b, c, d⟩ => ⟨a, b, c, d⟩, fun ⟨a, b, c, d⟩ => ⟨a, b, c, d⟩⟩

theorem shape_sound {lead low high : UInt8} {more : Nat}
    (shaped : shape lead = some (low, high, more)) : Sound lead low high more := by
  have all : ∀ n < 256, ∀ s ∈ shape (UInt8.ofNat n), Sound (UInt8.ofNat n) s.1 s.2.1 s.2.2 := by
    decide +kernel
  simpa using all lead.toNat lead.toNat_lt (low, high, more) (by simpa using shaped)

theorem Sound.value {lead low high second : UInt8} {more v : Nat} (sound : Sound lead low high more)
    (from_low : low.toNat ≤ second.toNat) (to_high : second.toNat ≤ high.toNat)
    (reached : least lead second more ≤ v)
    (below : v < (leadBits lead * 64 + second.toNat % 64 + 1) * Nat.pow 64 more) :
    128 ≤ v ∧ v.isValidChar := by
  obtain ⟨low_ge, high_lt, least_ge, valid⟩ := sound
  have above : least lead low more ≤ least lead second more :=
    Nat.mul_le_mul_right _ (by omega)
  have under : v < least lead high more + Nat.pow 64 more := by
    refine below.trans_le ?_
    rw [least, ← Nat.succ_mul]
    exact Nat.mul_le_mul_right _ (by omega)
  refine ⟨by omega, ?_⟩
  unfold Nat.isValidChar
  omega

theorem first_ascii {lead : UInt8} (ascii : lead.toNat < 128) (rest : Bytes) :
    first lead rest = (some (Char.ofNat lead.toNat), 0) := by
  have below : lead < 128 := by simpa [UInt8.lt_iff_toNat_lt] using ascii
  unfold first
  rw [if_pos below]

theorem first_high {lead : UInt8} (high : 128 ≤ lead.toNat) (rest : Bytes) :
    (∀ b ∈ rest.take (first lead rest).2, 128 ≤ b.toNat) ∧
      ∀ c, (first lead rest).1 = some c → 128 ≤ c.toNat := by
  have above : ¬ lead < 128 := by simpa [UInt8.lt_iff_toNat_lt] using high
  unfold first
  rw [if_neg above]
  split
  next low high more b rest shaped =>
    have sound := shape_sound shaped
    split
    next second =>
      simp only [Bool.and_eq_true, decide_eq_true_eq, UInt8.le_iff_toNat_le] at second
      obtain ⟨further, follow, bounds⟩ := trail_cases (leadBits lead * 64 + b.toNat % 64) 1 more rest
      constructor
      next =>
        intro x member
        obtain ⟨k, taken⟩ := Nat.exists_eq_add_of_le' further
        simp only [taken, List.take_succ_cons, Nat.add_sub_cancel] at member follow
        rcases List.mem_cons.1 member with rfl | member
        · exact sound.low_ge.trans second.1
        · exact follow x member
      next =>
        intro c found
        obtain ⟨v, read, rfl⟩ := Option.map_eq_some_iff.1 found
        obtain ⟨reached, below⟩ := bounds v read
        obtain ⟨large, valid⟩ := sound.value second.1 second.2 reached below
        rw [Char.ofNat, dif_pos valid]
        exact large
    next => simp
  next => simp

def shown (lead : UInt8) (rest : Bytes) : Char := (first lead rest).1.getD '\ufffd'

theorem shown_high {lead : UInt8} (high : 128 ≤ lead.toNat) (rest : Bytes) :
    128 ≤ (shown lead rest).toNat := by
  unfold shown
  cases found : (first lead rest).1 with
  | none => decide
  | some c => exact (first_high high rest).2 c found

theorem shown_eq_ascii {c : Char} (ascii : c.toNat < 128) (lead : UInt8) (rest : Bytes) :
    c = shown lead rest ↔ UInt8.ofNat c.toNat = lead := by
  by_cases low : lead.toNat < 128
  next =>
    rw [shown, first_ascii low]
    constructor
    next =>
      rintro rfl
      have valid : lead.toNat.isValidChar := .inl (by omega)
      rw [Option.getD_some, Char.ofNat, dif_pos valid]
      exact UInt8.ofNat_toNat
    next =>
      rintro rfl
      rw [Option.getD_some, toNat_byte (by omega), Char.ofNat_toNat]
  next =>
    have high := shown_high (Nat.le_of_not_lt low) rest
    constructor
    next =>
      intro same
      rw [← same] at high
      omega
    next =>
      rintro rfl
      rw [toNat_byte (by omega)] at low
      omega

theorem shape_two : ∀ k < 32, 2 ≤ k → leadBits (UInt8.ofNat (k + 0xc0)) = k ∧
    shape (UInt8.ofNat (k + 0xc0)) = some (0x80, 0xbf, 0) := by
  decide +kernel

theorem shape_three : ∀ k < 16, leadBits (UInt8.ofNat (k + 0xe0)) = k ∧
    shape (UInt8.ofNat (k + 0xe0)) =
      some (if k = 0 then 0xa0 else 0x80, if k = 13 then 0x9f else 0xbf, 1) := by
  decide +kernel

theorem shape_four : ∀ k < 5, leadBits (UInt8.ofNat (k + 0xf0)) = k ∧
    shape (UInt8.ofNat (k + 0xf0)) =
      some (if k = 0 then 0x90 else 0x80, if k = 4 then 0x8f else 0xbf, 2) := by
  decide +kernel

theorem trail_follower (value taken more : Nat) {d : Nat} (small : d < 64) (rest : Bytes) :
    trail value taken (more + 1) (UInt8.ofNat (d + 0x80) :: rest) =
      trail (value * 64 + d) (taken + 1) more rest := by
  have byte : (UInt8.ofNat (d + 0x80)).toNat = d + 0x80 := toNat_byte (by omega)
  have follows : (0x80 ≤ UInt8.ofNat (d + 0x80) && UInt8.ofNat (d + 0x80) ≤ 0xbf) = true := by
    simp only [Bool.and_eq_true, decide_eq_true_eq, UInt8.le_iff_toNat_le, byte]
    exact ⟨Nat.le_add_left 128 d, Nat.add_le_add_right (Nat.le_of_lt_succ small) 128⟩
  rw [trail, if_pos follows, byte]
  congr 2
  omega

theorem first_follower {lead low high : UInt8} {k d more : Nat}
    (shaped : leadBits lead = k ∧ shape lead = some (low, high, more)) (above : 128 ≤ lead.toNat)
    (small : d < 64) (from_low : low.toNat ≤ d + 0x80) (to_high : d + 0x80 ≤ high.toNat)
    (rest : Bytes) :
    first lead (UInt8.ofNat (d + 0x80) :: rest) =
      ((trail (k * 64 + d) 1 more rest).1.map Char.ofNat, (trail (k * 64 + d) 1 more rest).2) := by
  have beyond : ¬ lead < 128 := by simpa [UInt8.lt_iff_toNat_lt] using above
  have byte : (UInt8.ofNat (d + 0x80)).toNat = d + 0x80 := toNat_byte (by omega)
  have second : (low ≤ UInt8.ofNat (d + 0x80) && UInt8.ofNat (d + 0x80) ≤ high) = true := by
    simp only [Bool.and_eq_true, decide_eq_true_eq, UInt8.le_iff_toNat_le, byte]
    exact ⟨from_low, to_high⟩
  have digit : (UInt8.ofNat (d + 0x80)).toNat % 64 = d := by
    rw [byte]
    omega
  unfold first
  simp only [beyond, if_false, shaped.2, second, if_true, shaped.1, digit]

theorem first_encode (c : Char) :
    ∃ b tail, String.utf8EncodeChar c = b :: tail ∧
      ∀ rest, first b (tail ++ rest) = (some c, tail.length) := by
  have same : Char.ofNat c.val.toNat = c := Char.ofNat_toNat c
  have valid : c.val.toNat < 0xd800 ∨ 0xdfff < c.val.toNat ∧ c.val.toNat < 0x110000 := c.valid
  unfold String.utf8EncodeChar
  dsimp only
  generalize c.val.toNat = v at same valid
  split
  next ascii =>
    refine ⟨_, _, rfl, fun rest => ?_⟩
    have byte : (UInt8.ofNat v).toNat = v := toNat_byte (by omega)
    rw [first_ascii (by omega), byte, same]
    rfl
  next =>
    split
    next =>
      have shaped := shape_two (v / 64 % 32) (by omega) (by omega)
      refine ⟨_, _, rfl, fun rest => ?_⟩
      rw [List.cons_append, first_follower shaped (by rw [toNat_byte (by omega)]; omega) (by omega)
          (by simp) (by simp; omega), trail, show v / 64 % 32 * 64 + v % 64 = v by omega,
        Option.map_some, same]
      rfl
    next =>
      split
      next =>
        have shaped := shape_three (v / 4096 % 16) (by omega)
        refine ⟨_, _, rfl, fun rest => ?_⟩
        rw [List.cons_append, first_follower shaped (by rw [toNat_byte (by omega)]; omega)
            (by omega) (by split <;> simp; omega) (by split <;> simp <;> omega),
          List.cons_append, trail_follower _ _ _ (by omega), trail,
          show (v / 4096 % 16 * 64 + v / 64 % 64) * 64 + v % 64 = v by omega, Option.map_some, same]
        rfl
      next =>
        have shaped := shape_four (v / 262144 % 8) (by omega)
        refine ⟨_, _, rfl, fun rest => ?_⟩
        rw [List.cons_append, first_follower shaped (by rw [toNat_byte (by omega)]; omega)
            (by omega) (by split <;> simp; omega) (by split <;> simp <;> omega),
          List.cons_append, trail_follower _ _ _ (by omega), List.cons_append,
          trail_follower _ _ _ (by omega), trail,
          show ((v / 262144 % 8 * 64 + v / 4096 % 64) * 64 + v / 64 % 64) * 64 + v % 64 = v by omega,
          Option.map_some, same]
        rfl

end Utf8

theorem decodeLossy_cons (b : UInt8) (rest : Bytes) :
    decodeLossy (b :: rest) =
      Utf8.shown b rest :: decodeLossy (rest.drop (Utf8.first b rest).2) := by
  rw [decodeLossy, Utf8.shown]

theorem decodeLossy_encode (text : List Char) : decodeLossy (encode text) = text := by
  unfold encode
  induction text with
  | nil => rw [List.flatMap_nil, decodeLossy]
  | cons c text ih =>
    obtain ⟨b, tail, encoded, read⟩ := Utf8.first_encode c
    rw [List.flatMap_cons, encoded, List.cons_append, decodeLossy_cons, Utf8.shown, read,
      List.drop_left, ih]
    rfl

theorem decode_encode (text : List Char) : decode (encode text) = some text := by
  unfold encode
  induction text with
  | nil => rw [List.flatMap_nil, decode]
  | cons c text ih =>
    obtain ⟨b, tail, encoded, read⟩ := Utf8.first_encode c
    rw [List.flatMap_cons, encoded, List.cons_append, decode, read]
    simp only [List.drop_left, ih, Option.map_some]

def Ascii (text : List Char) : Prop := ∀ c ∈ text, c.toNat < 128

theorem encode_ascii {text : List Char} (ascii : Ascii text) :
    encode text = text.map fun c => UInt8.ofNat c.toNat := by
  unfold encode
  induction text with
  | nil => rfl
  | cons c text ih =>
    have here : c.val.toNat ≤ 127 := Nat.le_of_lt_succ (ascii c (by simp))
    have later := ih fun d member => ascii d (List.mem_cons_of_mem c member)
    rw [List.flatMap_cons, later, List.map_cons, String.utf8EncodeChar, if_pos here]
    rfl

theorem prefix_decodeLossy {text : List Char} (ascii : Ascii text) (bytes : Bytes) :
    text <+: decodeLossy bytes ↔ encode text <+: bytes := by
  rw [encode_ascii ascii]
  induction text generalizing bytes with
  | nil => simp
  | cons c text ih =>
    have here : c.toNat < 128 := ascii c (by simp)
    have later := ih fun d member => ascii d (List.mem_cons_of_mem c member)
    cases bytes with
    | nil => simp [decodeLossy]
    | cons b rest =>
      rw [decodeLossy_cons, List.map_cons, List.cons_prefix_cons, List.cons_prefix_cons,
        Utf8.shown_eq_ascii here]
      refine and_congr_right fun same => ?_
      have low : b.toNat < 128 := by
        rwa [← same, Utf8.toNat_byte (here.trans (by decide))]
      rw [Utf8.first_ascii low, List.drop_zero]
      exact later rest

theorem infix_drop_first {text : List Char} (nonempty : text ≠ []) (ascii : Ascii text) (b : UInt8)
    (rest : Bytes) :
    encode text <:+: rest ↔ encode text <:+: rest.drop (Utf8.first b rest).2 := by
  by_cases low : b.toNat < 128
  next => rw [Utf8.first_ascii low, List.drop_zero]
  next =>
    obtain ⟨c, more, rfl⟩ := List.exists_cons_of_ne_nil nonempty
    have high := (Utf8.first_high (Nat.le_of_not_lt low) rest).1
    have skipped := @infix_skip _ (encode (c :: more)) (rest.take (Utf8.first b rest).2)
      (rest.drop (Utf8.first b rest).2)
    rw [List.take_append_drop] at skipped
    rw [encode_ascii ascii] at skipped ⊢
    apply skipped (by simp)
    intro x member same
    have begins : UInt8.ofNat c.toNat = x := Option.some.inj same
    have large := high x member
    have small := ascii c (by simp)
    rw [← begins, Utf8.toNat_byte (small.trans (by decide))] at large
    omega

theorem occurs_decodeLossy {text : List Char} (nonempty : text ≠ []) (ascii : Ascii text)
    (bytes : Bytes) : occurs text (decodeLossy bytes) = occurs (encode text) bytes := by
  rw [Bool.eq_iff_iff, occurs_iff, occurs_iff]
  induction bytes using decodeLossy.induct with
  | case1 => simp [decodeLossy, encode_ascii ascii]
  | case2 b rest c taken read ih =>
    rw [decodeLossy_cons, List.infix_cons_iff, List.infix_cons_iff, ← decodeLossy_cons,
      prefix_decodeLossy ascii, infix_drop_first nonempty ascii b rest, read, ih]

end ShareCheck.Text

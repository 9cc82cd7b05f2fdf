import ShareCheck.Proofs.Text.Encoding
import ShareCheck.Text.Truncate

set_option autoImplicit false

namespace ShareCheck.Text

theorem length_encode_cons (c : Char) (text : List Char) :
    (encode (c :: text)).length = c.utf8Size + (encode text).length := by
  rw [encode, List.flatMap_cons, List.length_append, String.length_utf8EncodeChar]
  rfl

theorem byteSize_eq (text : List Char) : byteSize text = (encode text).length := by
  have counted (start : Nat) :
      text.foldl (fun n c => n + c.utf8Size) start = start + (encode text).length := by
    induction text generalizing start with
    | nil => rfl
    | cons c text ih => rw [List.foldl_cons, ih, length_encode_cons, Nat.add_assoc]
  rw [byteSize, counted, Nat.zero_add]

theorem isBoundary_iff (text : List Char) (n : Nat) :
    isBoundary text n = true ↔
      n = (encode text).length ∨ ∃ b ∈ (encode text)[n]?, b.IsUTF8FirstByte := by
  induction text generalizing n with
  | nil => cases n <;> simp [isBoundary, encode]
  | cons c text ih =>
    have size := String.length_utf8EncodeChar c
    have encoded : encode (c :: text) = String.utf8EncodeChar c ++ encode text := rfl
    by_cases inside : n < c.utf8Size
    next =>
      -- Of the bytes of the first character, the first is the only one that begins one.
      have here : (encode (c :: text))[n]? = (String.utf8EncodeChar c)[n]? := by
        rw [encoded, List.getElem?_append_left (by rwa [size])]
      have longer : n ≠ (encode (c :: text)).length := by
        rw [length_encode_cons]
        omega
      have within : n < (String.utf8EncodeChar c).length := by rwa [size]
      rw [here, List.getElem?_eq_getElem within]
      have begins : (String.utf8EncodeChar c)[n].IsUTF8FirstByte ↔ n = 0 :=
        UInt8.isUTF8FirstByte_getElem_utf8EncodeChar
      cases n with
      | zero =>
        have first : (String.utf8EncodeChar c)[0].IsUTF8FirstByte := begins.2 rfl
        simp [isBoundary, first]
      | succ n =>
        have other : ¬ (String.utf8EncodeChar c)[n + 1].IsUTF8FirstByte := by simp [begins]
        simp [isBoundary, Nat.not_le.2 inside, longer, other]
    next =>
      obtain ⟨left, rfl⟩ := Nat.exists_eq_add_of_le (Nat.le_of_not_lt inside)
      have passed : isBoundary (c :: text) (c.utf8Size + left) = isBoundary text left := by
        obtain ⟨more, positive⟩ := Nat.exists_eq_succ_of_ne_zero (Nat.ne_of_gt c.utf8Size_pos)
        rw [positive, Nat.succ_add, isBoundary]
        simp [positive]
      rw [passed, ih, length_encode_cons, Nat.add_left_cancel_iff, encoded,
        List.getElem?_append_right (by omega), size, Nat.add_sub_cancel_left]

theorem takeBytes_prefix (limit : Nat) (text : List Char) : takeBytes limit text <+: text := by
  induction text generalizing limit with
  | nil => simp [takeBytes]
  | cons c text ih =>
    unfold takeBytes
    split
    next => exact (List.prefix_cons_inj c).2 (ih _)
    next => exact List.nil_prefix

theorem prefix_takeBytes {start text : List Char} {limit : Nat} (begins : start <+: text)
    (fits : (encode start).length ≤ limit) : start <+: takeBytes limit text := by
  induction text generalizing start limit with
  | nil =>
    rw [List.prefix_nil.1 begins]
    exact List.nil_prefix
  | cons c text ih =>
    obtain rfl | ⟨rest, rfl, later⟩ := List.prefix_cons_iff.1 begins
    next => exact List.nil_prefix
    next =>
      rw [length_encode_cons] at fits
      rw [takeBytes, if_pos (by omega)]
      exact (List.prefix_cons_inj c).2 (ih later (by omega))

theorem isBoundary_of_prefix {start text : List Char} (begins : start <+: text) :
    isBoundary text (encode start).length = true := by
  obtain ⟨rest, rfl⟩ := begins
  rw [isBoundary_iff, encode_append, List.length_append]
  cases rest with
  | nil => exact .inl rfl
  | cons c rest =>
    obtain ⟨b, tail, encoded, -⟩ := Utf8.first_encode c
    have first := UInt8.isUTF8FirstByte_getElem_zero_utf8EncodeChar (c := c)
    simp only [encoded, List.getElem_cons_zero] at first
    exact .inr ⟨b, by simp [encode, encoded], first⟩

theorem length_takeBytes {text : List Char} {n : Nat} (boundary : isBoundary text n = true) :
    (encode (takeBytes n text)).length = n := by
  induction text generalizing n with
  | nil =>
    cases n with
    | zero => rfl
    | succ n => cases boundary
  | cons c text ih =>
    cases n with
    | zero => rw [takeBytes, if_neg (Nat.not_le.2 c.utf8Size_pos)]; rfl
    | succ n =>
      simp only [isBoundary, Bool.and_eq_true, decide_eq_true_eq] at boundary
      rw [takeBytes, if_pos boundary.1, length_encode_cons, ih boundary.2]
      exact Nat.add_sub_cancel' boundary.1

theorem boundaryUpTo_walks (text : List Char) (limit : Nat) :
    ∃ steps ≤ limit, boundaryUpTo text limit = limit - steps ∧
      isBoundary text (limit - steps) = true ∧
      ∀ k < steps, isBoundary text (limit - k) = false := by
  induction limit with
  | zero => exact ⟨0, Nat.le_refl 0, rfl, by cases text <;> rfl, nofun⟩
  | succ limit ih =>
    cases here : isBoundary text (limit + 1) with
    | true => exact ⟨0, Nat.zero_le _, by simp [boundaryUpTo, here], here, nofun⟩
    | false =>
      obtain ⟨steps, room, ends, boundary, passed⟩ := ih
      refine ⟨steps + 1, Nat.succ_le_succ room, by simp [boundaryUpTo, here, ends], ?_, ?_⟩
      next => rwa [Nat.add_sub_add_right]
      next =>
        intro k less
        cases k with
        | zero => exact here
        | succ k =>
          rw [Nat.add_sub_add_right]
          exact passed k (Nat.lt_of_succ_lt_succ less)

theorem limit_lt {start text : List Char} {limit : Nat} (begins : start <+: text)
    (longest : ∀ other, other <+: text → (encode other).length ≤ limit → other <+: start)
    (cut : limit < (encode text).length) (fits : (encode start).length ≤ limit) :
    limit < (encode start).length + 4 := by
  obtain ⟨_ | ⟨c, rest⟩, rfl⟩ := begins
  next =>
    rw [List.append_nil] at cut
    omega
  next =>
    have more : encode (start ++ [c]) = encode start ++ String.utf8EncodeChar c := by
      rw [encode_append, encode, encode, List.flatMap_singleton]
    have beyond : limit < (encode (start ++ [c])).length := by
      by_contra short
      have again := longest (start ++ [c]) ⟨rest, by simp⟩ (Nat.le_of_not_lt short)
      exact absurd again.length_le (by simp)
    have size := c.utf8Size_le_four
    rw [more, List.length_append, String.length_utf8EncodeChar] at beyond
    omega

/-- The longest start of the text that is made of whole characters and fits. The walk to where it
ends steps back from at most three places, all of them above zero and inside of a character. -/
theorem truncate_longest (limit : Nat) (text : List Char) :
    truncate limit text <+: text ∧ (encode (truncate limit text)).length ≤ limit ∧
      (∀ start, start <+: text → (encode start).length ≤ limit →
        start <+: truncate limit text) ∧
      ((encode text).length ≤ limit → truncate limit text = text) ∧
      (limit < (encode text).length →
        encode (truncate limit text) = (encode text).take (boundaryUpTo text limit) ∧
        ∃ steps ≤ 3, steps ≤ limit ∧ boundaryUpTo text limit = limit - steps ∧
          limit = (encode (truncate limit text)).length + steps ∧
          ∀ k < steps, ∃ b ∈ (encode text)[limit - k]?, ¬ b.IsUTF8FirstByte) ∧
      decode (encode (truncate limit text)) = some (truncate limit text) ∧
      ∀ more, limit ≤ more → truncate more (truncate limit text) = truncate limit text := by
  by_cases fits : (encode text).length ≤ limit
  next =>
    have whole {more : Nat} (le : limit ≤ more) : truncate more text = text := by
      rw [truncate, if_pos (by rw [byteSize_eq]; omega)]
    rw [whole (Nat.le_refl limit)]
    exact ⟨List.prefix_rfl, fits, fun _ begins _ => begins, fun _ => rfl,
      fun cut => absurd fits (Nat.not_le.2 cut), decode_encode text, fun more => whole⟩
  next =>
    have cut := Nat.lt_of_not_le fits
    obtain ⟨steps, room, ends, boundary, passed⟩ := boundaryUpTo_walks text limit
    have taken : truncate limit text = takeBytes (limit - steps) text := by
      rw [truncate, if_neg (by rwa [byteSize_eq]), ends]
    have size := length_takeBytes boundary
    have longest : ∀ start, start <+: text → (encode start).length ≤ limit →
        start <+: takeBytes (limit - steps) text := by
      intro start begins short
      refine prefix_takeBytes begins ?_
      -- The start ends at a boundary, and the walk has passed none.
      by_contra beyond
      have inside := passed (limit - (encode start).length) (by omega)
      rw [Nat.sub_sub_self short, isBoundary_of_prefix begins] at inside
      cases inside
    have begins := takeBytes_prefix (limit - steps) text
    have near := limit_lt begins longest cut (by omega)
    rw [taken, ends]
    refine ⟨begins, by omega, longest, fun whole => absurd whole fits, fun _ => ⟨?_, ?_⟩,
      decode_encode _, ?_⟩
    next =>
      have bytes := List.prefix_iff_eq_take.1 (encode_begins begins)
      rwa [size] at bytes
    next =>
      refine ⟨steps, by omega, room, rfl, by omega, fun k less => ?_⟩
      have inside := passed k less
      rw [← Bool.not_eq_true, isBoundary_iff, not_or] at inside
      have there := List.getElem?_eq_getElem (l := encode text) (i := limit - k) (by omega)
      exact ⟨_, there, fun first => inside.2 ⟨_, there, first⟩⟩
    next =>
      intro more le
      rw [truncate, if_pos (by rw [byteSize_eq]; omega)]

example : truncate 2 "h\u00e9llo".toList = "h".toList := by decide

end ShareCheck.Text

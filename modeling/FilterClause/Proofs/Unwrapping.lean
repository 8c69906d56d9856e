import FilterClause.Proofs.Token
import FilterClause.Renderer

/-!
What unwrapping makes of a key. Exactly one layer of quotes is taken off, together with the blanks outside
of it, and what it held is kept to the character; a key that is not in quotes is kept with its blanks.
The test needs no more than the first and the last byte of the text, and its cut never divides a
character, since no part of a longer character is the code of a quote.
-/

namespace FilterClause

namespace Key

open Text (Blanks)

theorem isQuote_iff {c : Char} : isQuote c = true ↔ c = '"' ∨ c = '\'' := by
  simp only [isQuote, Bool.or_eq_true, decide_eq_true_eq]

theorem isBlank_of_isQuote {q : Char} (h : isQuote q = true) : Text.isBlank q = false := by
  rcases isQuote_iff.mp h with rfl | rfl <;> decide

theorem unwrap?_eq_some_iff {cs inner : List Char} :
    unwrap? cs = some inner ↔ ∃ q, isQuote q = true ∧ cs = q :: (inner ++ [q]) := by
  cases cs with
  | nil => simp [unwrap?]
  | cons c cs =>
      simp only [unwrap?, Option.ite_none_right_eq_some, Bool.and_eq_true, decide_eq_true_eq,
        Option.some.injEq, List.cons.injEq]
      constructor
      · rintro ⟨⟨hc, hlast⟩, rfl⟩
        obtain ⟨ds, rfl⟩ := List.getLast?_eq_some_iff.mp hlast
        exact ⟨c, hc, rfl, by rw [List.dropLast_concat]⟩
      · rintro ⟨q, hq, rfl, rfl⟩
        exact ⟨⟨hq, List.getLast?_concat⟩, List.dropLast_concat⟩

/-- The key is `inner` in quotes of one kind, with nothing but blanks around them. -/
def Wrapped (key inner : String) : Prop :=
  ∃ before q after, Blanks before ∧ isQuote q = true ∧ Blanks after ∧
    key.toList = before ++ (q :: (inner.toList ++ [q])) ++ after

theorem wrapped_iff {key inner : String} :
    Wrapped key inner ↔ unwrap? (Text.trimmed key.toList) = some inner.toList := by
  rw [unwrap?_eq_some_iff]
  constructor
  · rintro ⟨before, q, after, hbefore, hq, hafter, hkey⟩
    refine ⟨q, hq, ?_⟩
    rw [hkey, List.append_assoc]
    apply Text.trimmed_between hbefore hafter (List.cons_ne_nil _ _)
    · intro c hc
      cases hc
      exact isBlank_of_isQuote hq
    · intro c hc
      rw [← List.cons_append, List.getLast?_concat] at hc
      cases hc
      exact isBlank_of_isQuote hq
  · rintro ⟨q, hq, htrimmed⟩
    obtain ⟨before, after, hbefore, hafter, hkey⟩ := Text.exists_blanks_trimmed key.toList
    refine ⟨before, q, after, hbefore, hq, hafter, ?_⟩
    rw [← htrimmed, List.append_assoc]
    exact hkey

theorem stripOuterQuotes_of_wrapped {key inner : String} (h : Wrapped key inner) :
    stripOuterQuotes key = inner := by
  rw [stripOuterQuotes, wrapped_iff.mp h]
  simp only [String.ofList_toList]

theorem stripOuterQuotes_of_not_wrapped {key : String} (h : ¬ ∃ inner, Wrapped key inner) :
    stripOuterQuotes key = key := by
  rw [stripOuterQuotes]
  cases hunwrap : unwrap? (Text.trimmed key.toList) with
  | none => rfl
  | some cs =>
      refine absurd ⟨String.ofList cs, wrapped_iff.mpr ?_⟩ h
      rw [hunwrap, String.toList_ofList]

theorem ne_of_wrapped {key inner : String} (h : Wrapped key inner) : inner ≠ key := by
  obtain ⟨before, q, after, -, -, -, hkey⟩ := h
  rintro rfl
  have hlength := congrArg List.length hkey
  simp only [List.length_append, List.length_cons] at hlength
  omega

theorem stripOuterQuotes_ne_iff {key : String} :
    stripOuterQuotes key ≠ key ↔ ∃ inner, Wrapped key inner := by
  constructor
  · intro hne
    exact Classical.byContradiction fun h => hne (stripOuterQuotes_of_not_wrapped h)
  · rintro ⟨inner, h⟩
    rw [stripOuterQuotes_of_wrapped h]
    exact ne_of_wrapped h

def bytes (s : String) : List UInt8 :=
  s.toUTF8.data.toList

/-- Two bytes at least, of which the first and the last are the same quote. -/
def QuotedBytes (bs : List UInt8) : Prop :=
  2 ≤ bs.length ∧ bs.head? = bs.getLast? ∧ (bs.head? = some 0x22 ∨ bs.head? = some 0x27)

theorem bytes_eq (s : String) : bytes s = s.toList.flatMap String.utf8EncodeChar := by
  have h : s.toUTF8 = s.toList.utf8Encode := by
    rw [String.toUTF8, ← String.toByteArray_ofList, String.ofList_toList]
  rw [bytes, h, List.utf8Encode, List.data_toByteArray]

theorem utf8EncodeChar_ne_nil (c : Char) : String.utf8EncodeChar c ≠ [] := by
  intro h
  have hlength := String.length_utf8EncodeChar c
  rw [h, List.length_nil] at hlength
  exact absurd hlength (Nat.ne_of_lt c.utf8Size_pos)

/-- A byte of the lower half is a character of its own, and no part of another. -/
theorem toNat_eq_of_mem_utf8EncodeChar {c : Char} {b : UInt8} (h : b ∈ String.utf8EncodeChar c)
    (hb : b.toNat < 128) : c.toNat = b.toNat := by
  have hupper : ∀ n : Nat, 128 ≤ n → n < 256 → b ≠ UInt8.ofNat n := by
    rintro n hn hword rfl
    rw [UInt8.toNat_ofNat', Nat.mod_eq_of_lt (by omega)] at hb
    omega
  simp only [String.utf8EncodeChar] at h
  split at h
  · rename_i hc
    rw [List.mem_singleton] at h
    rw [h, UInt8.toNat_ofNat', Nat.mod_eq_of_lt (by omega)]
    rfl
  · split at h
    · simp only [List.mem_cons, List.not_mem_nil, or_false] at h
      rcases h with h | h <;> exact absurd h (hupper _ (by omega) (by omega))
    · split at h
      · simp only [List.mem_cons, List.not_mem_nil, or_false] at h
        rcases h with h | h | h <;> exact absurd h (hupper _ (by omega) (by omega))
      · simp only [List.mem_cons, List.not_mem_nil, or_false] at h
        rcases h with h | h | h | h <;> exact absurd h (hupper _ (by omega) (by omega))

section Ends

variable {cs : List Char} {b : UInt8}

theorem head?_of_head?_bytes (h : (cs.flatMap String.utf8EncodeChar).head? = some b)
    (hb : b.toNat < 128) : ∃ c, cs.head? = some c ∧ c.toNat = b.toNat := by
  cases cs with
  | nil => cases h
  | cons c cs =>
      refine ⟨c, rfl, toNat_eq_of_mem_utf8EncodeChar ?_ hb⟩
      obtain ⟨x, xs, hx⟩ := List.exists_cons_of_ne_nil (utf8EncodeChar_ne_nil c)
      rw [List.flatMap_cons, hx] at h
      cases h
      rw [hx]
      exact List.mem_cons_self

theorem getLast?_of_getLast?_bytes (h : (cs.flatMap String.utf8EncodeChar).getLast? = some b)
    (hb : b.toNat < 128) : ∃ c, cs.getLast? = some c ∧ c.toNat = b.toNat := by
  rcases List.eq_nil_or_concat cs with rfl | ⟨ds, d, rfl⟩
  · cases h
  · rw [List.concat_eq_append] at h ⊢
    refine ⟨d, List.getLast?_concat, toNat_eq_of_mem_utf8EncodeChar ?_ hb⟩
    rcases List.eq_nil_or_concat (String.utf8EncodeChar d) with hx | ⟨xs, x, hx⟩
    · exact absurd hx (utf8EncodeChar_ne_nil d)
    · rw [List.concat_eq_append] at hx
      rw [List.flatMap_append, List.flatMap_singleton, hx, ← List.append_assoc,
        List.getLast?_concat] at h
      cases h
      rw [hx]
      exact List.mem_concat_self

end Ends

theorem utf8EncodeChar_quote {q : Char} (h : isQuote q = true) :
    String.utf8EncodeChar q = [q.val.toUInt8] := by
  rcases isQuote_iff.mp h with rfl | rfl <;> rfl

theorem quotedBytes_iff {s : String} :
    QuotedBytes (bytes s) ↔ ∃ q inner, isQuote q = true ∧ s.toList = q :: (inner ++ [q]) := by
  rw [bytes_eq]
  constructor
  · rintro ⟨hsize, hends, hquote⟩
    obtain ⟨b, hb, hfirst⟩ : ∃ b : UInt8, (b = 0x22 ∨ b = 0x27) ∧
        (s.toList.flatMap String.utf8EncodeChar).head? = some b := by
      rcases hquote with h | h
      · exact ⟨_, .inl rfl, h⟩
      · exact ⟨_, .inr rfl, h⟩
    have hlow : b.toNat < 128 := by
      rcases hb with rfl | rfl <;> decide
    obtain ⟨q, hq, hqb⟩ := head?_of_head?_bytes hfirst hlow
    obtain ⟨d, hd, hdb⟩ := getLast?_of_getLast?_bytes (hends ▸ hfirst) hlow
    obtain rfl : d = q := Char.toNat_inj.mp (hdb.trans hqb.symm)
    have hisQuote : isQuote d = true := by
      rw [isQuote_iff]
      rcases hb with rfl | rfl
      · exact .inl (Char.toNat_inj.mp hqb)
      · exact .inr (Char.toNat_inj.mp hqb)
    obtain ⟨cs, hcs⟩ := List.head?_eq_some_iff.mp hq
    rcases List.eq_nil_or_concat cs with rfl | ⟨inner, e, rfl⟩
    · -- A quote alone is one byte.
      rw [hcs, List.flatMap_singleton, utf8EncodeChar_quote hisQuote] at hsize
      exact absurd hsize (Nat.not_succ_le_self 1)
    · rw [List.concat_eq_append] at hcs
      rw [hcs, ← List.cons_append, List.getLast?_concat] at hd
      cases hd
      exact ⟨_, inner, hisQuote, hcs⟩
  · rintro ⟨q, inner, hq, hs⟩
    have hbytes : s.toList.flatMap String.utf8EncodeChar =
        q.val.toUInt8 :: (inner.flatMap String.utf8EncodeChar ++ [q.val.toUInt8]) := by
      rw [hs, List.flatMap_cons, List.flatMap_append, List.flatMap_singleton,
        utf8EncodeChar_quote hq]
      rfl
    rw [hbytes]
    refine ⟨by simp, ?_, ?_⟩
    · rw [← List.cons_append, List.getLast?_concat]
      rfl
    · rcases isQuote_iff.mp hq with rfl | rfl
      · exact .inl rfl
      · exact .inr rfl

/-- The cut behind the first byte and the one before the last are between characters, and between the two
stands what is in the quotes. -/
theorem cut_of_quotes {s inner : String} {q : Char} (hq : isQuote q = true)
    (hs : s.toList = q :: (inner.toList ++ [q])) :
    String.Pos.Raw.IsValid s ⟨1⟩ ∧ String.Pos.Raw.IsValid s ⟨s.utf8ByteSize - 1⟩ ∧
      s.toUTF8.extract 1 (s.utf8ByteSize - 1) = inner.toUTF8 := by
  have hsplit : s = String.singleton q ++ (inner ++ String.singleton q) := by
    apply String.toList_inj.mp
    simp [hs]
  have hone : (String.singleton q).utf8ByteSize = 1 := by
    rcases isQuote_iff.mp hq with rfl | rfl <;> rfl
  have hsize : s.utf8ByteSize = 1 + (inner.utf8ByteSize + 1) := by
    rw [hsplit, String.utf8ByteSize_append, String.utf8ByteSize_append, hone]
  refine ⟨?_, ?_, ?_⟩
  · rw [String.Pos.Raw.isValid_iff_exists_append]
    refine ⟨String.singleton q, inner ++ String.singleton q, hsplit, ?_⟩
    rw [String.rawEndPos, hone]
  · rw [String.Pos.Raw.isValid_iff_exists_append]
    refine ⟨String.singleton q ++ inner, String.singleton q, ?_, ?_⟩
    · rw [hsplit, String.append_assoc]
    · rw [String.rawEndPos, String.utf8ByteSize_append, hone, hsize]
      rfl
  · have hend : s.utf8ByteSize - 1 =
        (String.singleton q).toByteArray.size + inner.toByteArray.size := by
      rw [String.size_toByteArray, String.size_toByteArray, hone, hsize]
      omega
    have hstart : 1 = (String.singleton q).toByteArray.size + 0 := by
      rw [String.size_toByteArray, hone]
    rw [hend, hstart, hsplit, String.toUTF8, String.toByteArray_append,
      ByteArray.extract_append_size_add, String.toByteArray_append,
      ByteArray.extract_append_eq_left rfl]
    rfl

theorem cut_of_quotedBytes {key : String} (h : QuotedBytes (bytes (Text.trim key))) :
    String.Pos.Raw.IsValid (Text.trim key) ⟨1⟩ ∧
      String.Pos.Raw.IsValid (Text.trim key) ⟨(Text.trim key).utf8ByteSize - 1⟩ ∧
      (Text.trim key).toUTF8.extract 1 ((Text.trim key).utf8ByteSize - 1) =
        (stripOuterQuotes key).toUTF8 := by
  obtain ⟨q, cs, hq, hkey⟩ := quotedBytes_iff.mp h
  have hwrapped : Wrapped key (String.ofList cs) := by
    rw [wrapped_iff, unwrap?_eq_some_iff, String.toList_ofList]
    exact ⟨q, hq, by rw [← hkey, Text.trim, String.toList_ofList]⟩
  rw [stripOuterQuotes_of_wrapped hwrapped]
  exact cut_of_quotes hq (by rw [String.toList_ofList, hkey])

theorem quotedBytes_iff_wrapped {key : String} :
    QuotedBytes (bytes (Text.trim key)) ↔ ∃ inner, Wrapped key inner := by
  simp only [quotedBytes_iff, wrapped_iff, unwrap?_eq_some_iff, Text.trim, String.toList_ofList]
  constructor
  · rintro ⟨q, cs, hq, hkey⟩
    exact ⟨String.ofList cs, q, hq, by rw [String.toList_ofList, hkey]⟩
  · rintro ⟨inner, q, hq, hkey⟩
    exact ⟨q, inner.toList, hq, hkey⟩

/-- One layer of quotes is taken off and nothing else. A key is changed exactly if it is in quotes with
blanks around them at most, and then into what was in the quotes; every other key is kept with its
blanks. The first and the last byte decide, and the cut is between characters. In any dialect a key in
quotes is rendered as what is in them, and hence as that is rendered unless it is in quotes itself. -/
theorem stripOuterQuotes_one_layer (key : String) :
    (stripOuterQuotes key ≠ key ↔ ∃ inner, Wrapped key inner) ∧
    (∀ inner, Wrapped key inner → stripOuterQuotes key = inner) ∧
    ((¬ ∃ inner, Wrapped key inner) → stripOuterQuotes key = key) ∧
    ((∃ inner, Wrapped key inner) ↔ QuotedBytes (bytes (Text.trim key))) ∧
    (QuotedBytes (bytes (Text.trim key)) →
      String.Pos.Raw.IsValid (Text.trim key) ⟨1⟩ ∧
      String.Pos.Raw.IsValid (Text.trim key) ⟨(Text.trim key).utf8ByteSize - 1⟩ ∧
      (Text.trim key).toUTF8.extract 1 ((Text.trim key).utf8ByteSize - 1) =
        (stripOuterQuotes key).toUTF8) ∧
    ∀ quoted, Wrapped quoted key → ∀ r : Renderer,
      Renderer.renderKey quoted r = r.push (r.dialect.renderKey key) ∧
      ((¬ ∃ inner, Wrapped key inner) → Renderer.renderKey quoted r = Renderer.renderKey key r) := by
  refine ⟨stripOuterQuotes_ne_iff, fun _ => stripOuterQuotes_of_wrapped,
    stripOuterQuotes_of_not_wrapped, quotedBytes_iff_wrapped.symm, cut_of_quotedBytes, ?_⟩
  intro quoted hquoted r
  have hrender : Renderer.renderKey quoted r = r.push (r.dialect.renderKey key) := by
    rw [Renderer.renderKey, stripOuterQuotes_of_wrapped hquoted]
  refine ⟨hrender, fun hplain => ?_⟩
  rw [hrender, Renderer.renderKey, stripOuterQuotes_of_not_wrapped hplain]

example : stripOuterQuotes "\u3000'\"ключ\" '\n" = "\"ключ\" " := by decide

example : stripOuterQuotes " \"a' " = " \"a' " ∧ stripOuterQuotes " ' " = " ' " := by decide

end Key

end FilterClause

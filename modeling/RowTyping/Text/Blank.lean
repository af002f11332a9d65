namespace RowTyping.Text

/-- The code points with the Unicode property White_Space. -/
def isBlank (c : Char) : Bool :=
  let code := c.toNat
  (9 ≤ code && code ≤ 13) || code == 0x20 || code == 0x85 || code == 0xA0 || code == 0x1680
    || (0x2000 ≤ code && code ≤ 0x200A) || code == 0x2028 || code == 0x2029 || code == 0x202F
    || code == 0x205F || code == 0x3000

def trim (text : List Char) : List Char :=
  ((text.dropWhile isBlank).reverse.dropWhile isBlank).reverse

/-- The text enclosed by `lead` and `tail`. -/
def between? (lead tail : String) (text : List Char) : Option (List Char) :=
  (lead.toList.isPrefixOf? text).bind tail.toList.isSuffixOf?

theorem trim_length_le (text : List Char) : (trim text).length ≤ text.length := by
  have inner := (List.dropWhile_sublist (p := isBlank) (l := text)).length_le
  have outer := (List.dropWhile_sublist (p := isBlank)
    (l := (text.dropWhile isBlank).reverse)).length_le
  simp only [trim, List.length_reverse] at *
  omega

private theorem length_of_isPrefixOf? {lead text rest : List Char}
    (found : lead.isPrefixOf? text = some rest) : text.length = lead.length + rest.length := by
  induction lead generalizing text with
  | nil =>
    cases found
    simp
  | cons c lead ih =>
    cases text with
    | nil => cases found
    | cons d text =>
      change (if c == d then lead.isPrefixOf? text else none) = some rest at found
      split at found
      · simp only [List.length_cons, ih found]
        omega
      · cases found

theorem between?_length {lead tail : String} {text inner : List Char}
    (found : between? lead tail text = some inner) :
    text.length = lead.toList.length + inner.length + tail.toList.length := by
  obtain ⟨rest, starts, ends⟩ := Option.bind_eq_some_iff.mp found
  obtain ⟨reversed, matched, rfl⟩ := Option.map_eq_some_iff.mp ends
  have before := length_of_isPrefixOf? starts
  have behind := length_of_isPrefixOf? matched
  simp only [List.length_reverse] at behind ⊢
  omega

end RowTyping.Text

import BarRules.Proofs.Rule.Canonical
import BarRules.Proofs.Text.Boundaries

/-
  Scanning a text in two parts.

  Key definitions include:
    * `BarRules.ScanFault.shift`
    * `BarRules.Scan.displace`
    * `BarRules.Scan.Seam`

  Key theorems include:
    * `BarRules.Scan.tokensFrom_add`
    * `BarRules.Scan.Lexes.tokensFrom_append`
    * `BarRules.Scan.scan_eq_of_front`
    * `BarRules.scan_append`

  The scan keeps nothing but its place.  What it finds in a
  text does not depend on where the text starts, and once the
  text in front has fallen into lexemes, only a comparison at
  its end can take a character of the text behind.
-/

------------------------------------------------------------
-- Later Places
------------------------------------------------------------

namespace BarRules

/- A fault of text that starts so many bytes later. -/
def ScanFault.shift
    (bytes : Nat)
    (fault : ScanFault) :
    ScanFault where
  cause := fault.cause
  position := bytes + fault.position

namespace Scan

variable {α : Type}

/- A reading of text that starts so many bytes later. -/
def Reading.shift
    (bytes : Nat)
    (move : α → α)
    (reading : Reading α) :
    Reading α where
  value := move reading.value
  rest := reading.rest
  next := bytes + reading.next

/-
  What comes of text that starts so many bytes later: the fault
  is moved with the text, and what is found is moved as given.
-/
def displace
    (bytes : Nat)
    (move : α → α) :
    Except ScanFault α → Except ScanFault α
  | .error fault => .error (fault.shift bytes)
  | .ok found => .ok (move found)

end Scan

end BarRules

------------------------------------------------------------
-- Reading at a Later Place
------------------------------------------------------------

namespace BarRules

namespace Scan

variable (bytes : Nat)

/- A bad offset is diagnosed in the same way at any place. -/
theorem badOffset_add
    (bracket start : Nat)
    (content : List Char) :
    badOffset (bytes + bracket) (bytes + start) content =
      (badOffset bracket start content).shift bytes := by
  unfold badOffset
  split <;> rfl

/- A number is read in the same way at any place. -/
theorem readNumber_add
    (bracket start : Nat)
    (content : List Char) :
    readNumber (bytes + bracket) (bytes + start) content =
      displace bytes (Reading.shift bytes id)
        (readNumber bracket start content) := by
  unfold readNumber
  simp only [badOffset_add]
  split
  · rfl
  · split
    · rfl
    · split
      · rfl
      · simp [displace, Reading.shift, Nat.add_assoc]
  · rfl

/- So is an offset. -/
theorem readOffset_add
    (bracket : Nat)
    (cs : List Char) :
    readOffset (bytes + bracket) cs =
      displace bytes (Reading.shift bytes id)
        (readOffset bracket cs) := by
  unfold readOffset
  simp only [Nat.add_assoc, readNumber_add]
  split <;> rfl

/- So is a price. -/
theorem readPrice_add
    (pos : Nat)
    (cs : List Char) :
    readPrice (bytes + pos) cs =
      displace bytes
        (Reading.shift bytes (List.map (Token.shift bytes)))
        (readPrice pos cs) := by
  unfold readPrice
  simp only [Nat.add_assoc, readOffset_add]
  split
  · rfl
  · split
    · rename_i content _
      cases readOffset _ content <;> rfl
    · rfl

/- So is every lexeme. -/
theorem readLexeme_add
    (pos : Nat)
    (c : Char)
    (cs : List Char) :
    readLexeme (bytes + pos) c cs =
      displace bytes
        (Reading.shift bytes (List.map (Token.shift bytes)))
        (readLexeme pos c cs) := by
  unfold readLexeme
  split
  · exact readPrice_add bytes pos (c :: cs)
  · unfold readSymbol
    split
    · rfl
    · simp [displace, Reading.shift, Token.shift,
        Nat.add_assoc]

/- Behind a lexeme the scan goes on with what is left. -/
theorem tokensFrom_cons
    {c : Char}
    (hBlank : Text.isBlank c = false)
    (pos : Nat)
    (cs : List Char) :
    tokensFrom pos (c :: cs) =
      readLexeme pos c cs >>= fun reading =>
        (tokensFrom reading.next reading.rest).map
          (reading.value ++ ·) := by
  rw [tokensFrom, if_neg (by simp [hBlank])]
  split
  · rename_i fault hFault
    rw [hFault]
    rfl
  · rename_i reading hRead
    simp only [hRead]
    change _ =
      (tokensFrom reading.next reading.rest).map
        (reading.value ++ ·)
    cases tokensFrom reading.next reading.rest <;> rfl

/- What is found in a text does not depend on its place. -/
theorem tokensFrom_add
    (pos : Nat)
    (cs : List Char) :
    tokensFrom (bytes + pos) cs =
      displace bytes (List.map (Token.shift bytes))
        (tokensFrom pos cs) := by
  fun_induction tokensFrom pos cs with
  | case1 pos =>
      rw [tokensFrom]
      rfl
  | case2 pos c rest hBlank ih =>
      rw [tokensFrom_blank hBlank, Nat.add_assoc, ih]
  | case3 pos c rest hBlank fault hFault =>
      rw [tokensFrom_cons (by simpa using hBlank),
        readLexeme_add, hFault]
      rfl
  | case4 pos c rest hBlank reading hRead hShorter fault
      hFault ih =>
      rw [hFault] at ih
      rw [tokensFrom_cons (by simpa using hBlank),
        readLexeme_add, hRead]
      simp only [displace, Reading.shift, bind, Except.bind,
        ih, Except.map]
  | case5 pos c rest hBlank reading hRead hShorter found
      hFound ih =>
      rw [hFound] at ih
      rw [tokensFrom_cons (by simpa using hBlank),
        readLexeme_add, hRead]
      simp only [displace, Reading.shift, bind, Except.bind,
        ih, Except.map, List.map_append]

end Scan

end BarRules

------------------------------------------------------------
-- Seams
------------------------------------------------------------

namespace BarRules

namespace Scan

/-
  Two texts may be put together so that no shorter comparison
  at the end of the first one is made longer by the second.
-/
def Seam (front back : List Char) : Prop :=
  front.getLast? = some '<' ∨ front.getLast? = some '>' →
    back.head? ≠ some '='

instance (front back : List Char) : Decidable (Seam front back) :=
  inferInstanceAs (Decidable (_ → _))

variable {front middle back : List Char}

/- A seam does not depend on what stands further in front. -/
theorem Seam.behind
    (h : Seam (front ++ middle) back) :
    Seam middle back := by
  intro hLast
  apply h
  rw [List.getLast?_append]
  rcases hLast with hLess | hGreater
  · exact Or.inl (by rw [hLess]; rfl)
  · exact Or.inr (by rw [hGreater]; rfl)

/- A lexeme may still end where it does. -/
theorem Seam.endsBefore
    (h : Seam (front ++ middle) back)
    (hEnds : EndsBefore front middle) :
    EndsBefore front (middle ++ back) := by
  intro hShort
  cases middle with
  | nil =>
      apply h
      rcases hShort with rfl | rfl
      · exact Or.inl rfl
      · exact Or.inr rfl
  | cons c middle => exact hEnds hShort

/-
  Behind text that falls into lexemes, the scan starts anew.
  The induction goes along the lexemes, each of which is read
  as before although more text follows.
-/
theorem Lexes.tokensFrom_append
    {pos : Nat}
    {tokens : List Token}
    (h : Lexes pos front tokens)
    (hSeam : Seam front back) :
    tokensFrom pos (front ++ back) =
      (tokensFrom (pos + Text.byteLength front) back).map
        (tokens ++ ·) := by
  induction h with
  | done pos =>
      change tokensFrom pos back = (tokensFrom pos back).map id
      cases tokensFrom pos back <;> rfl
  | @blank pos c cs tokens hBlank rest ih =>
      have hWhole : Seam ([c] ++ cs) back := hSeam
      rw [List.cons_append, tokensFrom_blank hBlank,
        ih hWhole.behind, Text.byteLength, Nat.add_assoc]
  | @lexeme pos text cs found tokens hLexeme hEnds rest ih =>
      rcases readLexeme_of_lexeme pos hLexeme
          (hSeam.endsBefore hEnds) with
        ⟨c, others, hText, hBlank, hRead⟩
      rw [List.append_assoc, hText, tokensFrom_cons hBlank,
        hRead]
      change
        (tokensFrom (pos + Text.byteLength text)
              (cs ++ back)).map
            (found.map (Token.shift pos) ++ ·) =
          _
      rw [ih hSeam.behind, Text.byteLength_append,
        ← Nat.add_assoc]
      cases tokensFrom _ back with
      | error fault => rfl
      | ok others => simp [Except.map]

end Scan

end BarRules

------------------------------------------------------------
-- Concatenation
------------------------------------------------------------

namespace BarRules

variable {front back : String}
variable {tokens : List Token}

namespace Scan

/- A rule is scanned as what stands behind its front is. -/
theorem scan_eq_of_front
    (hFront : scan front = .ok tokens)
    (hSeam : Seam front.toList back.toList) :
    scan (front ++ back) =
      (displace front.utf8ByteSize
            (List.map (Token.shift front.utf8ByteSize))
            (scan back)).map
        (tokens ++ ·) := by
  have hLexes := (scan_eq_ok_iff front tokens).mp hFront
  have hBack := tokensFrom_add front.utf8ByteSize 0 back.toList
  rw [scan, String.toList_append,
    hLexes.tokensFrom_append hSeam, Nat.zero_add,
    Text.byteLength_toList]
  rw [Nat.add_zero] at hBack
  rw [hBack]
  rfl

end Scan

/-
  Scanning distributes over concatenation.  Behind a text that
  is scanned without fault, the tokens and the fault of another
  text are what they are alone, moved by the bytes of the first
  one.  Only a comparison may go on across the seam.
-/
theorem scan_append
    (hFront : scan front = .ok tokens)
    (hSeam : Scan.Seam front.toList back.toList) :
    (∀ others,
      scan back = .ok others →
        scan (front ++ back) =
          .ok
            (tokens ++
              others.map (Token.shift front.utf8ByteSize))) ∧
    (∀ cause position,
      scan back = .error ⟨cause, position⟩ →
        scan (front ++ back) =
            .error ⟨cause, front.utf8ByteSize + position⟩ ∧
          Rule.parse (front ++ back) =
            .error
              (.scan cause (front ++ back)
                (front.utf8ByteSize + position))) := by
  have hScan := Scan.scan_eq_of_front hFront hSeam
  constructor
  · intro others hBack
    rw [hScan, hBack]
    rfl
  · intro cause position hBack
    have hFault :
        scan (front ++ back) =
          .error ⟨cause, front.utf8ByteSize + position⟩ := by
      rw [hScan, hBack]
      rfl
    refine ⟨hFault, ?_⟩
    rw [Rule.parse, hFault]

/-
  A wide blank follows a comparison that could go on.  Behind
  it stands an offset that is no number, or one that is.
-/
theorem scan_append_wide_blank :
    let front := "OPEN[1] <"
    let number := "\u2003HIGH[ 20 ]"
    let letter := "\u2003HIGH[ é ]"
    scan (front ++ number) =
        .ok
          [⟨.price .opening, 0⟩, ⟨.offset 1, 4⟩,
            ⟨.operator (.compare .less), 8⟩,
            ⟨.price .high, 12⟩, ⟨.offset 20, 16⟩] ∧
      Rule.parse (front ++ letter) =
        .error
          (.scan (.malformedOffset "é") (front ++ letter)
            18) := by
  intro front number letter
  have hFront :
      scan front =
        .ok
          [⟨.price .opening, 0⟩, ⟨.offset 1, 4⟩,
            ⟨.operator (.compare .less), 8⟩] := by
    decide +kernel
  have hNumber :
      scan number =
        .ok [⟨.price .high, 3⟩, ⟨.offset 20, 7⟩] := by
    decide +kernel
  have hLetter :
      scan letter = .error ⟨.malformedOffset "é", 9⟩ := by
    decide +kernel
  constructor
  · exact (scan_append hFront (by decide)).1 _ hNumber
  · exact ((scan_append hFront (by decide)).2 _ _ hLetter).2

end BarRules

import Phrasebook.Proofs.Request.Reading

/-!
# Reading and printing requests

Reading loses nothing: the request that a text is read to is canonical, and it is
printed to that very text. Reading refuses nothing that a canonical request is
printed to, and gives that request back. So the texts that can be read and the
canonical requests correspond one to one.
-/

namespace Phrasebook.Request

/-- A request is read from exactly the text that it is printed to, provided that it
is canonical. -/
theorem parse_eq_ok_iff {input : String} {request : Request} :
    parse input = .ok request ↔ request.Canonical ∧ request.print = input := by
  obtain ⟨keys⟩ := request
  have printed := Key.piecesText_map_piece keys
  have read : parse input = .ok ⟨keys⟩ ↔ readPieces input 0 (pieces input.toList) = .ok keys := by
    simp [parse, Steps.map_eq_ok_iff]
  obtain ⟨cut, text⟩ := pieces_cut input.toList
  rw [read, readPieces_eq_ok_iff cut]
  constructor
  · rintro ⟨same, canonical⟩
    rw [same] at cut text
    refine ⟨⟨canonical, (Key.cut_iff canonical).1 cut⟩, ?_⟩
    rw [print, ← printed, text, String.ofList_toList]
  · rintro ⟨⟨canonical, chain⟩, rfl⟩
    refine ⟨?_, canonical⟩
    rw [print, String.toList_ofList, ← printed]
    exact pieces_piecesText ((Key.cut_iff canonical).2 chain)

/-- Escaped text is what the request with that one literal text is printed to. -/
theorem print_literal (text : String) : (literal text).print = escape .request text := by
  simp [literal, print, Key.print, Key.literal]

/-- A literal request is canonical unless it is empty. -/
theorem canonical_literal {text : String} (some : text ≠ "") : (literal text).Canonical := by
  simp [literal, Canonical, Key.literal, Key.Canonical, some]

/-- A text that can be read is printed again from its request, which is canonical.
No other text is read to that request. -/
theorem parse_lossless {input : String} {request : Request}
    (accepted : parse input = .ok request) :
    request.print = input ∧ request.Canonical ∧
      ∀ other, parse other = .ok request → other = input := by
  obtain ⟨canonical, printed⟩ := parse_eq_ok_iff.1 accepted
  refine ⟨printed, canonical, ?_⟩
  intro other also
  obtain ⟨-, otherPrinted⟩ := parse_eq_ok_iff.1 also
  exact otherPrinted.symm.trans printed

/-- A text in which markers, delimiters and newlines stand next to each other. -/
def seamText : String := "é\\\\\\\x7b \\@@\x7bk\x7d\x7bb\\\x7d\n\x7d\x7b\x7d@\x7bm\x7d\\"

/-- The request that this text describes: literal text, two references that touch, and a
single marker. -/
def seamRequest : Request :=
  ⟨[⟨none, ["é\\\\\x7b @"]⟩, ⟨some "k", ["b\x7d\n", ""]⟩, ⟨some "m", []⟩, ⟨none, ["\\"]⟩]⟩

/-- Nothing of the text is lost where its pieces meet. -/
theorem parse_lossless_seams :
    parse seamText = .ok seamRequest ∧ seamRequest.print = seamText ∧ seamRequest.Canonical ∧
      ∀ other, parse other = .ok seamRequest → other = seamText := by
  have accepted : parse seamText = .ok seamRequest := by decide +kernel
  exact ⟨accepted, parse_lossless accepted⟩

/-- A canonical request is read back from what it is printed to. Among them is every
literal text that is not empty, whatever delimiters and markers it holds. -/
theorem parse_print :
    (∀ request : Request, request.Canonical → parse request.print = .ok request) ∧
      ∀ text, text ≠ "" → parse (escape .request text) = .ok (literal text) := by
  have canonicalRead : ∀ request : Request, request.Canonical →
      parse request.print = .ok request :=
    fun request canonical => parse_eq_ok_iff.2 ⟨canonical, rfl⟩
  refine ⟨canonicalRead, ?_⟩
  intro text some
  rw [← print_literal]
  exact canonicalRead (literal text) (canonical_literal some)

/-- Empty arguments, a newline at the end of an argument and a marker at the end of the
request are allowed, and so is any escaped text. -/
theorem parse_print_seams :
    seamRequest.Canonical ∧ parse seamRequest.print = .ok seamRequest ∧
      "@\x7bk\x7d\\" ≠ "" ∧
        parse (escape .request "@\x7bk\x7d\\") = .ok (literal "@\x7bk\x7d\\") := by
  have canonical : seamRequest.Canonical := by decide
  have some : "@\x7bk\x7d\\" ≠ "" := by decide
  exact ⟨canonical, parse_print.1 seamRequest canonical, some, parse_print.2 _ some⟩

end Phrasebook.Request

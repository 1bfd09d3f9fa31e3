import Phrasebook.Escape

/-!
# The pieces of a request text

A reference is an at sign and one or more components; a component is a pair of
braces around some content. A request text is cut into references and the plain
text between them. A reference right after a backslash is cut out together with
that backslash.

The content of a component is either empty or the shortest text that a closing
brace follows, that does not end in a backslash, and that holds no newline
except as its last character. References take as many components as they can.
No character is lost: the pieces joined give the text back.
-/

namespace Phrasebook.Request

/-- The content of a component that is not empty, from after its opening brace,
and what follows its closing brace. -/
def content? : List Char → Option (List Char × List Char)
  | [] => none
  | [_] => none
  | c :: next :: rest =>
    if c != Escape.marker && next == '}' then some ([c], rest)
    else if c == '\n' then none
    else (content? (next :: rest)).map fun found => (c :: found.1, found.2)

/-- The content of a component at the start of a text, and what follows it. -/
def component? : List Char → Option (List Char × List Char)
  | '{' :: '}' :: rest => some ([], rest)
  | '{' :: rest => content? rest
  | _ => none

/-- The characters of the component with the given content. -/
def componentText (content : List Char) : List Char := '{' :: (content ++ ['}'])

/-- A component is its content between braces. -/
theorem content?_text {chars content rest : List Char}
    (found : content? chars = some (content, rest)) :
    chars = content ++ '}' :: rest := by
  fun_induction content? chars generalizing content with
  | case1 => cases found
  | case2 => cases found
  | case3 c next tail closes =>
    cases found
    simp only [Bool.and_eq_true, beq_iff_eq] at closes
    simp [closes.2]
  | case4 => cases found
  | case5 c next tail _ _ inductionHypothesis =>
    obtain ⟨⟨inner, after⟩, step, same⟩ := Option.map_eq_some_iff.1 found
    cases same
    simp [inductionHypothesis step]

/-- A text that starts with a component is that component and what follows. -/
theorem component?_text {chars content rest : List Char}
    (found : component? chars = some (content, rest)) :
    chars = componentText content ++ rest := by
  unfold component? at found
  split at found
  · cases found
    rfl
  · rw [content?_text found]
    simp [componentText]
  · cases found

/-- What follows a component is shorter. -/
theorem component?_shorter {chars content rest : List Char}
    (found : component? chars = some (content, rest)) : rest.length < chars.length := by
  rw [component?_text found]
  simp only [componentText, List.cons_append, List.append_assoc, List.length_cons,
    List.length_append]
  omega

/-- The contents of the components at the start of a text, as many as there
are, and what follows them. -/
def components (chars : List Char) : List (List Char) × List Char :=
  match found : component? chars with
  | some (content, rest) =>
    have : rest.length < chars.length := component?_shorter found
    let following := components rest
    (content :: following.1, following.2)
  | none => ([], chars)
termination_by chars.length

/-- What follows the components is no longer than the text. -/
theorem components_length (chars : List Char) : (components chars).2.length ≤ chars.length := by
  fun_induction components chars with
  | case1 chars content rest _ shorter following inductionHypothesis =>
    exact Nat.le_of_lt (Nat.lt_of_le_of_lt inductionHypothesis shorter)
  | case2 => exact Nat.le_refl _

/-- A piece of a request text. -/
inductive Piece where
  /-- Text between references. -/
  | plain (text : List Char)
  /-- A reference after a backslash, kept as the characters after the at sign. -/
  | guarded (body : List Char)
  /-- A reference, kept as the characters after the at sign. -/
  | reference (body : List Char)
deriving DecidableEq, Repr

/-- The characters of a piece. -/
def Piece.text : Piece → List Char
  | .plain text => text
  | .guarded body => Escape.marker :: '@' :: body
  | .reference body => '@' :: body

/-- The pieces with a character of plain text put before them. -/
def consPlain (c : Char) : List Piece → List Piece
  | .plain text :: rest => .plain (c :: text) :: rest
  | pieces => .plain [c] :: pieces

/-- The components after an at sign and what follows them, provided there is at
least one component. -/
def referenceBody? (chars : List Char) :
    Option (List Char × { rest : List Char // rest.length ≤ chars.length }) :=
  let found := components chars
  if found.1.isEmpty then none
  else some (found.1.flatMap componentText, ⟨found.2, components_length chars⟩)

/-- Cut a text into its pieces. -/
def pieces (chars : List Char) : List Piece :=
  match chars with
  | [] => []
  | [c] => [.plain [c]]
  | c :: next :: rest =>
    if c == '@' then
      match referenceBody? (next :: rest) with
      | some (body, ⟨after, _⟩) => .reference body :: pieces after
      | none => consPlain c (pieces (next :: rest))
    else if c == Escape.marker && next == '@' then
      match referenceBody? rest with
      | some (body, ⟨after, _⟩) => .guarded body :: pieces after
      | none => consPlain c (pieces (next :: rest))
    else consPlain c (pieces (next :: rest))
termination_by chars.length
decreasing_by all_goals simp_all <;> omega

/-- The components found anywhere in a text, each with the byte position of its
content counted from `position`. Characters outside components are passed over. -/
def contents (position : Nat) (chars : List Char) : List (Nat × List Char) :=
  match found : component? chars with
  | some (content, rest) =>
    have : rest.length < chars.length := component?_shorter found
    (position + 1, content) ::
      contents (position + Text.byteLength (componentText content)) rest
  | none =>
    match chars with
    | [] => []
    | c :: rest => contents (position + c.utf8Size) rest
termination_by chars.length

end Phrasebook.Request

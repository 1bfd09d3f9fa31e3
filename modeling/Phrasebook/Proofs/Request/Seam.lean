import Phrasebook.Proofs.Request.RoundTrip

/-!
# Where two request texts meet

Two texts that can be read make up a text that can be read, and almost always its keys are
those of the first text followed by those of the second. There are two ways in which the
texts can act on each other. Literal text at the end of the first and at the beginning of the
second becomes one key, since literal keys never touch. And a marker at the end of the first
guards a reference at the beginning of the second; this is the only case that is excluded.

Nothing else can happen at the seam. A reference does not go on in the second text, because
no text that can be read begins with a brace.
-/

namespace Phrasebook

namespace Key

/-- A canonical key without a name is some literal text. -/
theorem Canonical.eq_literal {key : Key} (canonical : key.Canonical) (unnamed : key.name = none) :
    ∃ text, text ≠ "" ∧ key = literal text := by
  match key, canonical with
  | ⟨none, [text]⟩, nonempty => exact ⟨text, nonempty, rfl⟩

/-- Literal text is printed to its escaped form. -/
theorem print_literal (text : String) : (literal text).print = content text := by
  simp [print, literal, content, escape]

/-- Escaping goes character by character, so two texts can be escaped one after the other. -/
theorem content_append (text more : String) :
    content (text ++ more) = content text ++ content more := by
  rw [content, String.toList_append, Escape.encode_append]
  rfl

/-- It makes no difference to the key before it which literal text follows. -/
theorem precedes_literal {key : Key} {text : String} (other : String)
    (precedes : key.Precedes (literal text)) : key.Precedes (literal other) := precedes

/-- Text before a literal text makes no difference to the key behind it. -/
theorem Precedes.of_suffix {more : String} {next : Key}
    (precedes : (literal more).Precedes next) (nonempty : more ≠ "") (text : String) :
    (literal (text ++ more)).Precedes next := by
  intro unnamed
  obtain ⟨named, unmarked⟩ := precedes rfl
  have some : more.toList.getLast? ≠ none := by simpa using nonempty
  refine ⟨named, ?_⟩
  simp only [literal, joinedArguments_literal] at unmarked ⊢
  rw [String.toList_append, List.getLast?_append]
  cases ending : more.toList.getLast? with
  | none => exact absurd ending some
  | some c => simpa [ending] using unmarked

end Key

namespace Request

/-- The keys of one request followed by those of another, where literal text that meets
becomes one key. -/
def join (left right : Request) : Request :=
  match left.keys.getLast?, right.keys with
  | some last, next :: rest =>
    if last.name = none ∧ next.name = none then
      ⟨left.keys.dropLast ++ Key.literal (last.joinedArguments ++ next.joinedArguments) :: rest⟩
    else left ++ right
  | _, _ => left ++ right

/-- Two requests that can be read have literal texts that meet, or their keys just follow each
other. -/
inductive Meet : Request → Request → Request → Prop where
  /-- Two literal texts become one. -/
  | merged (front rest : List Key) (text more : String) :
      Meet ⟨front ++ [Key.literal text]⟩ ⟨Key.literal more :: rest⟩
        ⟨front ++ Key.literal (text ++ more) :: rest⟩
  /-- The keys at the seam are not both literal. -/
  | apart (left right : Request)
      (seam : ∀ last ∈ left.keys.getLast?, ∀ next ∈ right.keys.head?,
        last.name = none → next.name ≠ none) :
      Meet left right (left ++ right)

/-- Canonical requests are joined where they meet. -/
theorem meet_join {left right : Request} (first : left.Canonical) (second : right.Canonical) :
    Meet left right (left.join right) := by
  obtain ⟨keys⟩ := left
  obtain ⟨later⟩ := right
  rcases List.eq_nil_or_concat keys with rfl | ⟨front, last, rfl⟩
  · exact .apart _ _ (by simp)
  cases later with
  | nil =>
    rw [join]
    simp only [List.concat_eq_append, List.getLast?_append, List.getLast?_singleton]
    exact .apart _ _ (by simp)
  | cons next rest =>
    rw [List.concat_eq_append] at first ⊢
    by_cases both : last.name = none ∧ next.name = none
    · have lastCanonical : last.Canonical := first.1 last (by simp)
      have nextCanonical : next.Canonical := second.1 next (by simp)
      obtain ⟨text, -, rfl⟩ := lastCanonical.eq_literal both.1
      obtain ⟨more, -, rfl⟩ := nextCanonical.eq_literal both.2
      have joined : join ⟨front ++ [Key.literal text]⟩ ⟨Key.literal more :: rest⟩ =
          ⟨front ++ Key.literal (text ++ more) :: rest⟩ := by
        simp [join, Key.literal]
      rw [joined]
      exact .merged front rest text more
    · have joined : join ⟨front ++ [last]⟩ ⟨next :: rest⟩ =
          ⟨front ++ [last]⟩ ++ ⟨next :: rest⟩ := by
        simp only [join, List.getLast?_append, List.getLast?_singleton, Option.some_or, if_neg both]
      rw [joined]
      refine .apart _ _ ?_
      simpa using both

/-- The characters that a request is printed to. -/
theorem print_toList (request : Request) : request.print.toList = request.keys.flatMap Key.print :=
  String.toList_ofList

/-- Requests that meet are printed one after the other. -/
theorem Meet.print {left right whole : Request} (meet : Meet left right whole) :
    whole.print = left.print ++ right.print := by
  rw [← String.toList_inj, String.toList_append, print_toList, print_toList, print_toList]
  cases meet with
  | merged front rest text more =>
    simp [Key.print_literal, Key.content_append]
  | apart _ _ _ => exact List.flatMap_append

/-- A request that ends with literal text is printed with the end of that text. -/
theorem Canonical.print_getLast? {request : Request} (canonical : request.Canonical) {last : Key}
    (ends : last ∈ request.keys.getLast?) (unnamed : last.name = none) :
    request.print.toList.getLast? = last.joinedArguments.toList.getLast? := by
  obtain ⟨front, keys⟩ := List.getLast?_eq_some_iff.1 ends
  have member : last ∈ request.keys := List.mem_of_getLast? ends
  obtain ⟨text, nonempty, rfl⟩ := (canonical.1 last member).eq_literal unnamed
  have shown : (Key.content text).getLast? = text.toList.getLast? := Escape.encode_getLast? _ _
  have plain : (Key.literal text).joinedArguments = text := Key.joinedArguments_literal text
  rw [print_toList, keys, List.flatMap_append, List.getLast?_append, List.flatMap_singleton,
    Key.print_literal, shown, plain]
  cases ending : text.toList.getLast? with
  | none => exact absurd (List.getLast?_eq_none_iff.1 ending) (by simpa using nonempty)
  | some c => rfl

/-- A request that begins with a reference is printed with an at sign at its beginning. -/
theorem print_head? {request : Request} {next : Key} (begins : next ∈ request.keys.head?)
    (named : next.name ≠ none) : request.print.toList.head? = some '@' := by
  obtain ⟨rest, keys⟩ := List.head?_eq_some_iff.1 begins
  obtain ⟨name, same⟩ := Option.ne_none_iff_exists'.1 named
  rw [print_toList, keys, List.flatMap_cons, Key.print, same]
  rfl

/-- Canonical requests that meet make up a canonical request, unless the first text ends in a
marker and the second begins with an at sign. -/
theorem Meet.canonical {left right whole : Request} (meet : Meet left right whole)
    (first : left.Canonical) (second : right.Canonical)
    (unguarded : left.print.toList.getLast? = some Escape.marker →
      right.print.toList.head? ≠ some '@') : whole.Canonical := by
  cases meet with
  | merged front rest text more =>
    obtain ⟨firstKeys, firstChain⟩ := first
    obtain ⟨secondKeys, secondChain⟩ := second
    have nonempty : more ≠ "" := secondKeys (Key.literal more) List.mem_cons_self
    have merged : (Key.literal (text ++ more)).Canonical := by
      have some : text ++ more ≠ "" := fun empty =>
        nonempty (String.append_eq_empty_iff.1 empty).2
      exact some
    constructor
    · intro key member
      rcases List.mem_append.1 member with before | after
      · exact firstKeys key (List.mem_append_left _ before)
      · rcases List.mem_cons.1 after with rfl | behind
        · exact merged
        · exact secondKeys key (List.mem_cons_of_mem _ behind)
    · obtain ⟨frontChain, -, toText⟩ := List.isChain_append.1 firstChain
      obtain ⟨fromMore, restChain⟩ := List.isChain_cons.1 secondChain
      refine List.isChain_append.2 ⟨frontChain, List.isChain_cons.2 ⟨?_, restChain⟩, ?_⟩
      · intro next begins
        exact (fromMore next begins).of_suffix nonempty text
      · rintro last ends _ ⟨⟩
        exact Key.precedes_literal _ (toText last ends _ rfl)
  | apart _ _ seam =>
    constructor
    · intro key member
      exact (List.mem_append.1 member).elim (first.1 key) (second.1 key)
    · refine List.isChain_append.2 ⟨first.2, second.2, ?_⟩
      intro last ends next begins unnamed
      have named : next.name ≠ none := seam last ends next begins unnamed
      refine ⟨named, ?_⟩
      intro marked
      rw [← first.print_getLast? ends unnamed] at marked
      exact unguarded marked (print_head? begins named)

/-- Two texts that can be read are read together as their requests joined, unless a marker at
the end of the first meets an at sign. -/
theorem parse_append {left right : String} {first second : Request}
    (firstRead : parse left = .ok first) (secondRead : parse right = .ok second)
    (unguarded : left.toList.getLast? = some Escape.marker → right.toList.head? ≠ some '@') :
    parse (left ++ right) = .ok (first.join second) := by
  obtain ⟨firstCanonical, rfl⟩ := parse_eq_ok_iff.1 firstRead
  obtain ⟨secondCanonical, rfl⟩ := parse_eq_ok_iff.1 secondRead
  have meet : Meet first second (first.join second) := meet_join firstCanonical secondCanonical
  exact parse_eq_ok_iff.2
    ⟨meet.canonical firstCanonical secondCanonical unguarded, meet.print⟩

end Request

end Phrasebook

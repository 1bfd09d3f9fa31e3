import Mathlib.Data.List.Nodup
import Phrasebook.Dictionary
import Phrasebook.Toml.Reader

/-!
# Names of members

In the table that is read from a document, no name occurs twice among the members of a table. That
holds of all tables under construction, is kept whenever something is added to them, and holds of
the tables written on one line, which are built in the same way. Settling the values only leaves
out tables and puts the others in order, so the names are in ascending order at the end. Lists are
not looked into.
-/

namespace Phrasebook.Toml

open Text (Scan many manyWithin)

/-- Whether the members of a value have different names, and so do those of the tables among
them. -/
inductive Value.Distinct : Value → Prop where
  | text (content : String) : Distinct (.text content)
  | scalar (kind : ScalarKind) : Distinct (.scalar kind)
  | list (items : List Value) : Distinct (.list items)
  | table {members : List (String × Value)} (names : (members.map Prod.fst).Nodup)
      (each : ∀ name value, (name, value) ∈ members → Distinct value) : Distinct (.table members)

/-- Whether the members of a value are in ascending order of their names, and so are those of the
tables among them. -/
inductive Value.Ascending : Value → Prop where
  | text (content : String) : Ascending (.text content)
  | scalar (kind : ScalarKind) : Ascending (.scalar kind)
  | list (items : List Value) : Ascending (.list items)
  | table {members : List (String × Value)} (names : (members.map Prod.fst).Pairwise (· < ·))
      (each : ∀ name value, (name, value) ∈ members → Ascending value) :
      Ascending (.table members)

/-- Whether the members of a node have different names, and so do those of the nodes among
them. -/
inductive Node.Distinct : Node → Prop where
  | value {content : Value} (distinct : content.Distinct) : Distinct (.value content)
  | table (implied dotted : Bool) {members : List (String × Node)}
      (names : (members.map Prod.fst).Nodup)
      (each : ∀ name node, (name, node) ∈ members → Distinct node) :
      Distinct (.table implied dotted members)
  | tables (items : List Node) : Distinct (.tables items)

namespace Node

/-- Whether a change keeps the names of members different. -/
def Preserves (change : Node → Option Node) : Prop :=
  ∀ node result, node.Distinct → change node = some result → result.Distinct

variable {name : String} {node : Node} {members : List (String × Node)} {implied dotted : Bool}

/-- Replacing a member is writing an entry. -/
theorem setMember_eq_put (name : String) (node : Node) (members : List (String × Node)) :
    setMember name node members = Dictionary.put name node members := by
  induction members with
  | nil => rfl
  | cons member rest inductionHypothesis =>
    rw [setMember, Dictionary.put, inductionHypothesis]

theorem mem_setMember {other : String} {found : Node}
    (member : (other, found) ∈ setMember name node members) :
    found = node ∨ (other, found) ∈ members := by
  induction members with
  | nil => simp_all [setMember]
  | cons first rest inductionHypothesis =>
    rw [setMember] at member
    split at member <;> grind

theorem mem_of_member? (found : member? name members = some node) : (name, node) ∈ members := by
  induction members with
  | nil => cases found
  | cons first rest inductionHypothesis =>
    rw [member?] at found
    split at found <;> grind

namespace Distinct

theorem fresh : fresh.Distinct := .table _ _ List.nodup_nil nofun

/-- The members of a table have different names themselves. -/
theorem member (distinct : (Node.table implied dotted members).Distinct)
    (found : member? name members = some node) : node.Distinct := by
  cases distinct with
  | table _ _ names each => exact each name node (mem_of_member? found)

/-- It does not matter how a table came about. -/
theorem flags (distinct : (Node.table implied dotted members).Distinct)
    (otherImplied otherDotted : Bool) :
    (Node.table otherImplied otherDotted members).Distinct := by
  cases distinct with
  | table _ _ names each => exact .table _ _ names each

/-- A member can be set to another node. -/
theorem setMember (distinct : (Node.table implied dotted members).Distinct)
    (nodeDistinct : node.Distinct) :
    (Node.table implied dotted (setMember name node members)).Distinct := by
  cases distinct with
  | table _ _ names each =>
    refine .table _ _ ?_ fun other found isMember => ?_
    · rw [setMember_eq_put]
      exact Dictionary.nodup_put name node members names
    · rcases mem_setMember isMember with rfl | old
      · exact nodeDistinct
      · exact each other found old

/-- A member can be moved to the end. -/
theorem moveMember (distinct : (Node.table implied dotted members).Distinct)
    (nodeDistinct : node.Distinct) :
    (Node.table implied dotted (removeMember name members ++ [(name, node)])).Distinct := by
  cases distinct with
  | table _ _ names each =>
    refine .table _ _ ?_ fun other found isMember => ?_
    · rw [List.map_append, List.map_singleton, List.nodup_append]
      refine ⟨names.sublist (List.filter_sublist.map _), List.nodup_singleton name, ?_⟩
      rintro other kept _ isName rfl
      simp_all [removeMember]
    · rcases List.mem_append.1 isMember with old | new
      · exact each other found (List.mem_of_mem_filter old)
      · cases List.mem_singleton.1 new
        exact nodeDistinct

end Distinct

/-- A change at the end of a path that is not empty sets one member of a table: to a list of tables,
or to what the rest of the path makes of a member that was there or of a table without members. -/
theorem update_cons {change : Node → Option Node} {path : List String} {result : Node}
    (updated : update dotted change (name :: path) node = some result) :
    ∃ implied wasDotted members changed, node = .table implied wasDotted members ∧
      result = .table implied wasDotted (setMember name changed members) ∧
      ((∃ items, changed = .tables items) ∨
        ∃ start, update dotted change path start = some changed ∧
          (start = .table true dotted [] ∨ member? name members = some start)) := by
  cases node with
  | value content => cases updated
  | tables items => cases updated
  | table implied wasDotted members =>
    rw [update] at updated
    split at updated
    · obtain ⟨changed, taken, same⟩ := Option.bind_eq_some_iff.1 updated
      cases same
      exact ⟨_, _, _, changed, rfl, rfl, .inr ⟨_, taken, .inl rfl⟩⟩
    · cases updated
    · obtain ⟨changed, taken, same⟩ := Option.bind_eq_some_iff.1 updated
      cases same
      obtain ⟨last, -, rfl⟩ := Option.map_eq_some_iff.1 taken
      exact ⟨_, _, _, _, rfl, rfl, .inl ⟨_, rfl⟩⟩
    · rename_i found
      obtain ⟨changed, taken, same⟩ := Option.bind_eq_some_iff.1 updated
      cases same
      exact ⟨_, _, _, changed, rfl, rfl, .inr ⟨_, taken, .inr found⟩⟩
    · rename_i found
      split at updated
      · cases updated
      · obtain ⟨changed, taken, same⟩ := Option.bind_eq_some_iff.1 updated
        cases same
        exact ⟨_, _, _, changed, rfl, rfl, .inr ⟨_, taken, .inr found⟩⟩

/-- A change at the end of a path keeps names different when the change itself does. -/
theorem Preserves.update {change : Node → Option Node} (preserves : Preserves change)
    (dotted : Bool) (path : List String) : Preserves (update dotted change path) := by
  induction path with
  | nil => exact preserves
  | cons name path inductionHypothesis =>
    intro node result distinct updated
    obtain ⟨_, _, _, changed, rfl, rfl, ⟨items, rfl⟩ | ⟨start, taken, origin⟩⟩ :=
      update_cons updated
    · exact distinct.setMember (.tables items)
    · refine distinct.setMember (inductionHypothesis start changed ?_ taken)
      rcases origin with rfl | found
      · exact .table _ _ List.nodup_nil nofun
      · exact distinct.member found

/-- Adding a value whose tables have different names keeps names different. -/
theorem preserves_addValue {content : Value} (distinct : content.Distinct) (path : List String) :
    Preserves (addValue path content) := by
  refine Preserves.update (fun node result nodeDistinct added => ?_) true path.dropLast
  cases node with
  | value _ => cases added
  | tables _ => cases added
  | table implied dotted members =>
    simp only at added
    split_ifs at added
    cases added
    exact nodeDistinct.setMember (.value distinct)

/-- Writing out a table keeps names different when filling it does. -/
theorem preserves_addTable {fill : Node → Option Node} (preserves : Preserves fill)
    (path : List String) : Preserves (addTable path fill) := by
  refine Preserves.update (fun node result nodeDistinct added => ?_) false path.dropLast
  cases node with
  | value _ => cases added
  | tables _ => cases added
  | table implied dotted members =>
    simp only at added
    split at added
    · obtain ⟨_, ⟨⟩, filling⟩ := Option.bind_eq_some_iff.1 added
      obtain ⟨filled, taken, same⟩ := Option.bind_eq_some_iff.1 filling
      cases same
      exact nodeDistinct.moveMember (preserves _ _ .fresh taken)
    · -- An implied table is written out: it keeps its members and moves to the end.
      rename_i found
      obtain ⟨_, ⟨⟩, filling⟩ := Option.bind_eq_some_iff.1 added
      obtain ⟨filled, taken, same⟩ := Option.bind_eq_some_iff.1 filling
      cases same
      have start := (nodeDistinct.member found).flags false false
      exact nodeDistinct.moveMember (preserves _ _ start taken)
    · cases added

/-- Adding a table to a list keeps names different. -/
theorem preserves_addToTables (fill : Node → Option Node) (path : List String) :
    Preserves (addToTables path fill) := by
  refine Preserves.update (fun node result nodeDistinct added => ?_) false path.dropLast
  cases node with
  | value _ => cases added
  | tables _ => cases added
  | table implied dotted members =>
    simp only at added
    split at added
    · obtain ⟨_, ⟨⟩, filling⟩ := Option.bind_eq_some_iff.1 added
      obtain ⟨item, -, same⟩ := Option.bind_eq_some_iff.1 filling
      cases same
      exact nodeDistinct.setMember (.tables _)
    · obtain ⟨_, ⟨⟩, filling⟩ := Option.bind_eq_some_iff.1 added
      obtain ⟨item, -, same⟩ := Option.bind_eq_some_iff.1 filling
      cases same
      exact nodeDistinct.setMember (.tables _)
    · cases added

/-- Changes that are made one after the other keep names different when each of them does. -/
theorem preserves_foldlM {α : Type} {change : Node → α → Option Node} {items : List α}
    (each : ∀ item ∈ items, Preserves (change · item)) :
    Preserves fun node => items.foldlM change node := by
  induction items with
  | nil =>
    intro node result distinct changed
    cases changed
    exact distinct
  | cons item rest inductionHypothesis =>
    intro node result distinct changed
    obtain ⟨next, first, following⟩ := Option.bind_eq_some_iff.1 changed
    obtain ⟨here, later⟩ := List.forall_mem_cons.1 each
    exact inductionHypothesis later next result (here node next distinct first) following

theorem finishMembers_eq_map (members : List (String × Node)) :
    finishMembers members = members.map fun member => (member.1, member.2.finish) := by
  induction members with
  | nil => rfl
  | cons member rest inductionHypothesis =>
    rw [finishMembers, inductionHypothesis, List.map_cons, finishMember]

/-- What a node becomes has the same names. -/
theorem Distinct.finish (distinct : node.Distinct) : node.finish.Distinct := by
  induction distinct with
  | value distinct => exact distinct
  | tables items => exact .list _
  | table implied dotted names each inductionHypothesis =>
    rw [Node.finish, finishMembers_eq_map]
    refine .table (by simpa [Function.comp_def] using names) fun name value member => ?_
    obtain ⟨⟨_, node⟩, isMember, same⟩ := List.mem_map.1 member
    cases same
    exact inductionHypothesis _ node isMember

end Node

/-! ### Settling -/

/-- Settled members have the names they had, each with its settled value. -/
theorem settleMembers?_eq_some {members settled : List (String × Value)}
    (done : Value.settleMembers? members = some settled) :
    settled.map Prod.fst = members.map Prod.fst ∧
      ∀ name value, (name, value) ∈ settled →
        ∃ before, (name, before) ∈ members ∧ before.settle? = some value := by
  induction members generalizing settled with
  | nil =>
    cases done
    exact ⟨rfl, nofun⟩
  | cons member rest inductionHypothesis =>
    obtain ⟨name, before⟩ := member
    obtain ⟨value, first, following⟩ := Option.bind_eq_some_iff.1 done
    obtain ⟨others, remaining, same⟩ := Option.bind_eq_some_iff.1 following
    cases same
    obtain ⟨names, each⟩ := inductionHypothesis remaining
    refine ⟨by simp [names], fun other found isMember => ?_⟩
    rcases List.mem_cons.1 isMember with here | later
    · cases here
      exact ⟨before, List.mem_cons_self, first⟩
    · obtain ⟨old, isOld, settles⟩ := each other found later
      exact ⟨old, List.mem_cons_of_mem _ isOld, settles⟩

/-- Names that are put in order are in strictly ascending order when they are different. -/
theorem sortByName_ascending {α : Type} {members : List (String × α)}
    (names : (members.map Prod.fst).Nodup) :
    ((sortByName members).map Prod.fst).Pairwise (· < ·) := by
  have sorted : (sortByName members).Pairwise fun left right =>
      precedes left.1 right.1 = true := by
    refine List.pairwise_mergeSort ?_ ?_ members
    · intro _ _ _ first second
      exact decide_eq_true (String.le_trans (of_decide_eq_true first) (of_decide_eq_true second))
    · intro left right
      simpa [precedes] using String.le_total left.1 right.1
  have different : ((sortByName members).map Prod.fst).Nodup :=
    ((List.mergeSort_perm members _).map Prod.fst).nodup_iff.2 names
  rw [List.pairwise_map]
  refine (sorted.and (List.pairwise_map.1 different)).imp ?_
  rintro left right ⟨inOrder, apart⟩
  exact Std.lt_of_le_of_ne (of_decide_eq_true inOrder) apart

/-- Settled members that are put in order are in ascending order, and so are those of the tables
among them. -/
theorem sorted_ascending {members settled : List (String × Value)}
    (names : (members.map Prod.fst).Nodup)
    (each : ∀ name before, (name, before) ∈ members →
      ∀ {value}, before.settle? = some value → value.Ascending)
    (done : Value.settleMembers? members = some settled) :
    (Value.table (sortByName settled)).Ascending := by
  obtain ⟨sameNames, settles⟩ := settleMembers?_eq_some done
  have perm : (sortByName settled).Perm settled := List.mergeSort_perm _ _
  refine .table (sortByName_ascending (sameNames ▸ names)) fun name value member => ?_
  obtain ⟨before, isMember, settled⟩ := settles name value (perm.mem_iff.1 member)
  exact each name before isMember settled

/-- Settling a value whose members have different names puts them in ascending order. -/
theorem Value.Distinct.settle {value settled : Value} (distinct : value.Distinct)
    (done : value.settle? = some settled) : settled.Ascending := by
  induction distinct generalizing settled with
  | text content =>
    cases done
    exact .text content
  | scalar kind =>
    cases done
    exact .scalar kind
  | list items =>
    obtain ⟨others, -, rfl⟩ := Option.map_eq_some_iff.1 done
    exact .list others
  | @table members names each inductionHypothesis =>
    rw [Value.settle?] at done
    split at done
    · -- A table that stands for a date or a time is a scalar afterwards.
      split_ifs at done
      cases done
      exact .scalar _
    · cases done
    · obtain ⟨others, remaining, rfl⟩ := Option.map_eq_some_iff.1 done
      exact sorted_ascending names inductionHypothesis remaining

/-! ### Reading -/

/-- Whether a reader only gives values whose members have different names. -/
def Reads (item : Scan Value) : Prop :=
  ∀ chars value rest, item chars = some (value, rest) → value.Distinct

/-- Whether all values of pairs have members of different names. -/
def PairsDistinct (pairs : List Pair) : Prop := ∀ pair ∈ pairs, pair.content.Distinct

/-- Adding pairs keeps names different. -/
theorem preserves_addPairs {pairs : List Pair} (distinct : PairsDistinct pairs) :
    Node.Preserves (addPairs pairs) :=
  Node.preserves_foldlM fun pair member => Node.preserves_addValue (distinct pair member) pair.path

theorem pair?_distinct {item : Scan Value} (reads : Reads item) {chars rest : List Char}
    {pair : Pair} (read : pair? item chars = some (pair, rest)) : pair.content.Distinct := by
  obtain ⟨⟨path, afterPath⟩, -, following⟩ := Option.bind_eq_some_iff.1 read
  simp only at following
  split at following
  · obtain ⟨⟨content, afterContent⟩, taken, same⟩ := Option.bind_eq_some_iff.1 following
    cases same
    exact reads _ content afterContent taken
  · cases following

theorem pairs?_distinct {item : Scan Value} (reads : Reads item) (rounds : Nat)
    {chars rest : List Char} {pairs : List Pair}
    (read : pairs? item rounds chars = some (pairs, rest)) : PairsDistinct pairs := by
  induction rounds generalizing chars pairs rest with
  | zero => cases read
  | succ rounds inductionHypothesis =>
    obtain ⟨⟨first, afterFirst⟩, taken, following⟩ := Option.bind_eq_some_iff.1 read
    have here := pair?_distinct reads taken
    simp only at following
    split at following
    · cases following
      exact List.forall_mem_singleton.2 here
    · obtain ⟨⟨others, afterOthers⟩, remaining, same⟩ := Option.bind_eq_some_iff.1 following
      cases same
      exact List.forall_mem_cons.2 ⟨here, inductionHypothesis remaining⟩
    · cases following

/-- A table that is made of pairs has different names. -/
theorem finish_addPairs {pairs : List Pair} (distinct : PairsDistinct pairs) {node : Node}
    (added : addPairs pairs Node.fresh = some node) : node.finish.Distinct :=
  (preserves_addPairs distinct _ node .fresh added).finish

theorem reads_inlineTable? {item : Scan Value} (reads : Reads item) :
    Reads (inlineTable? item) := by
  intro chars value rest read
  rw [inlineTable?] at read
  split at read
  · obtain ⟨_, ⟨⟩, building⟩ := Option.bind_eq_some_iff.1 read
    obtain ⟨node, added, same⟩ := Option.bind_eq_some_iff.1 building
    cases same
    exact finish_addPairs (List.forall_mem_nil _) added
  · obtain ⟨⟨pairs, _⟩, taken, building⟩ := Option.bind_eq_some_iff.1 read
    obtain ⟨node, added, same⟩ := Option.bind_eq_some_iff.1 building
    cases same
    exact finish_addPairs (pairs?_distinct reads _ taken) added

/-- A value is a table on one line, whose values are nested less deeply, or it is no table. -/
theorem value?_eq_some {depth : Nat} {chars rest : List Char} {value : Value}
    (read : value? depth chars = some (value, rest)) :
    (∃ below following, depth = below + 1 ∧
      inlineTable? (value? below) following = some (value, rest)) ∨
    (∃ items, value = .list items) ∨ (∃ content, value = .text content) ∨
      ∃ kind, value = .scalar kind := by
  rw [value?.eq_def] at read
  split at read
  · obtain ⟨⟨items, _⟩, -, same⟩ := Option.map_eq_some_iff.1 read
    cases same
    exact .inr (.inl ⟨items, rfl⟩)
  · exact .inl ⟨_, _, rfl, read⟩
  · split at read
    · cases read
      exact .inr (.inr (.inl ⟨_, rfl⟩))
    · obtain ⟨⟨kind, _⟩, -, same⟩ := Option.map_eq_some_iff.1 read
      cases same
      exact .inr (.inr (.inr ⟨kind, rfl⟩))

theorem reads_value? (depth : Nat) : Reads (value? depth) := by
  induction depth with
  | zero =>
    intro chars value rest read
    rcases value?_eq_some read with ⟨_, _, ⟨⟩, -⟩ | ⟨items, rfl⟩ | ⟨content, rfl⟩ | ⟨kind, rfl⟩
    exacts [.list items, .text content, .scalar kind]
  | succ depth inductionHypothesis =>
    intro chars value rest read
    rcases value?_eq_some read with
      ⟨below, following, ⟨⟩, inside⟩ | ⟨items, rfl⟩ | ⟨content, rfl⟩ | ⟨kind, rfl⟩
    exacts [reads_inlineTable? inductionHypothesis following value rest inside, .list items,
      .text content, .scalar kind]

theorem line?_distinct {chars rest : List Char} {pair : Pair}
    (read : line? chars = some (.pair pair, rest)) : pair.content.Distinct := by
  rw [line?.eq_def] at read
  split at read
  · obtain ⟨⟨path, afterPath⟩, -, header⟩ := Option.bind_eq_some_iff.1 read
    simp only at header
    split at header
    · obtain ⟨_, -, ⟨⟩⟩ := Option.bind_eq_some_iff.1 header
    · cases header
  · obtain ⟨⟨path, afterPath⟩, -, header⟩ := Option.bind_eq_some_iff.1 read
    simp only at header
    split at header
    · obtain ⟨_, -, ⟨⟩⟩ := Option.bind_eq_some_iff.1 header
    · cases header
  · obtain ⟨⟨found, afterPair⟩, taken, ending⟩ := Option.bind_eq_some_iff.1 read
    obtain ⟨_, -, same⟩ := Option.bind_eq_some_iff.1 ending
    cases same
    exact pair?_distinct (reads_value? depthBound) taken

/-- What holds of an item wherever it is read holds of all items that are read. -/
theorem forall_mem_manyWithin {α : Type} {item : Scan α} {property : α → Prop}
    (holds : ∀ chars value rest, item chars = some (value, rest) → property value) (rounds : Nat)
    (chars : List Char) : ∀ value ∈ (manyWithin item rounds chars).1, property value := by
  induction rounds generalizing chars with
  | zero => exact nofun
  | succ rounds inductionHypothesis =>
    rw [manyWithin]
    split
    · exact nofun
    · rename_i value rest read
      exact List.forall_mem_cons.2 ⟨holds chars value rest read, inductionHypothesis rest⟩

theorem lines?_distinct {chars : List Char} {lines : List Line} (read : lines? chars = some lines) :
    ∀ pair, Line.pair pair ∈ lines → pair.content.Distinct := by
  have each : ∀ start, ∀ line ∈ (many nextLine? start).1,
      ∀ pair, line = .pair pair → pair.content.Distinct := by
    refine fun start => forall_mem_manyWithin (fun chars line rest read pair same => ?_) _ start
    exact line?_distinct (same ▸ read)
  simp only [lines?] at read
  split_ifs at read
  cases read
  exact fun pair member => each _ _ member pair rfl

/-- The pairs of all sections are among the lines. -/
theorem sections_distinct {lines : List Line}
    (each : ∀ pair, Line.pair pair ∈ lines → pair.content.Distinct) :
    PairsDistinct (sections lines).1 ∧
      ∀ part ∈ (sections lines).2, PairsDistinct part.pairs := by
  induction lines with
  | nil => exact ⟨nofun, nofun⟩
  | cons line rest inductionHypothesis =>
    obtain ⟨first, others⟩ := inductionHypothesis fun pair member =>
      each pair (List.mem_cons_of_mem _ member)
    cases line with
    | pair pair => exact ⟨List.forall_mem_cons.2 ⟨each pair List.mem_cons_self, first⟩, others⟩
    | header header => exact ⟨nofun, List.forall_mem_cons.2 ⟨first, others⟩⟩

theorem preserves_addSection {part : Section} (distinct : PairsDistinct part.pairs) :
    Node.Preserves (addSection · part) := by
  intro root result rootDistinct added
  have fill := preserves_addPairs distinct
  obtain ⟨header, pairs⟩ := part
  cases header with
  | table path => exact Node.preserves_addTable fill path root result rootDistinct added
  | listItem path => exact Node.preserves_addToTables _ path root result rootDistinct added

/-- The members of the table that is read from a document are in ascending order of their names,
and so are those of all tables below it. -/
theorem parse_ascending {text : String} {table : Table} (parsed : parse text = some table) :
    (Value.table table).Ascending := by
  obtain ⟨lines, read, following⟩ := Option.bind_eq_some_iff.1 parsed
  obtain ⟨first, others⟩ := sections_distinct (lines?_distinct read)
  obtain ⟨start, added, continuing⟩ := Option.bind_eq_some_iff.1 following
  obtain ⟨root, grown, settling⟩ := Option.bind_eq_some_iff.1 continuing
  have startDistinct := preserves_addPairs first _ start .fresh added
  have rootDistinct := Node.preserves_foldlM (fun part member =>
    preserves_addSection (others part member)) start root startDistinct grown
  have finished := rootDistinct.finish
  split at settling
  · rename_i members isTable
    obtain ⟨settled, remaining, rfl⟩ := Option.map_eq_some_iff.1 settling
    rw [isTable] at finished
    cases finished with
    | table names each =>
      exact sorted_ascending names (fun name value member => (each name value member).settle)
        remaining
  · cases settling

end Phrasebook.Toml

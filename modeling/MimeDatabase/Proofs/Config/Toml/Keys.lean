import MimeDatabase.Config.Toml.Document
import MimeDatabase.Proofs.Config.Leaves

/-!
# Documents have each key once

The table of a TOML document is proper: it has each key once, and so has every table in it
(`readDocument_proper`). A key that is given twice is refused, but that is not what this rests on.
Whatever goes into a table goes there by `Fields.put`, which takes the place of a value that is
there; so each way to change a tree keeps it proper, and the tree begins empty.

Lists may hold anything: no key leads into them, so a change inside a list needs no proof.
-/

namespace MimeDatabase

/-- Whatever a computation yields has a property. It may also fail. -/
def Ensures {ε α : Type} (P : α → Prop) (x : Except ε α) : Prop := ∀ a, x = .ok a → P a

namespace Ensures

variable {ε α β : Type} {P : α → Prop} {Q : β → Prop}

theorem ok {a : α} (h : P a) : Ensures P (.ok a : Except ε α) := by
  rintro _ ⟨⟩
  exact h

theorem error (e : ε) : Ensures P (.error e) := by
  rintro _ ⟨⟩

theorem any (x : Except ε α) : Ensures (fun _ => True) x := fun _ _ => trivial

/-- A computation that goes on with what another yields. -/
theorem bind {x : Except ε α} {f : α → Except ε β} (hx : Ensures P x)
    (hf : ∀ a, P a → Ensures Q (f a)) : Ensures Q (x >>= f) := by
  cases x with
  | error e => exact error e
  | ok a => exact hf a (hx a rfl)

theorem map {x : Except ε α} {f : α → β} (hx : Ensures P x) (hf : ∀ a, P a → Q (f a)) :
    Ensures Q (x.map f) := by
  cases x with
  | error e => exact error e
  | ok a => exact ok (hf a (hx a rfl))

theorem ite {c : Prop} [Decidable c] {x y : Except ε α} (hx : Ensures P x) (hy : Ensures P y) :
    Ensures P (if c then x else y) := by
  split
  · exact hx
  · exact hy

/-- What each step keeps, a fold keeps. -/
theorem foldlM {f : α → β → Except ε α} {l : List β} {a : α} (ha : P a)
    (hf : ∀ a b, P a → Ensures P (f a b)) : Ensures P (l.foldlM f a) := by
  induction l generalizing a with
  | nil => exact ok ha
  | cons b l ih =>
    rw [List.foldlM_cons]
    exact bind (hf a b ha) fun a' ha' => ih ha'

/-- What each element yields has the property, and so has all that a list yields. -/
theorem mapM {f : α → Except ε β} (hf : ∀ a, Ensures Q (f a)) (l : List α) :
    Ensures (fun bs => ∀ b ∈ bs, Q b) (l.mapM f) := by
  induction l with
  | nil => exact ok fun b hb => absurd hb List.not_mem_nil
  | cons a l ih =>
    rw [List.mapM_cons]
    exact bind (hf a) fun b hb => bind ih fun bs hbs => ok (List.forall_mem_cons.mpr ⟨hb, hbs⟩)

end Ensures

namespace Toml

namespace Node

/-- A node whose value has each key once. -/
def Proper (n : Node) : Prop := n.toValue.keysDistinct = true

/-! ## Fields -/

/-- To put a node among fields is to put its value into their table. -/
theorem toTable_put (fields : Fields) (key : String) (n : Node) :
    toTable (fields.put key n) = Table.put key n.toValue (toTable fields) := by
  induction fields with
  | nil => simp only [Fields.put, toTable, Table.put]
  | cons f fields ih =>
    rw [Fields.put, toTable, Table.put]
    split
    · rw [toTable]
    · rw [toTable, ih]

/-- The value of a key in the table of some fields is that of its node. -/
theorem get?_toTable (fields : Fields) (key : String) :
    Table.get? (toTable fields) key = (fields.get? key).map toValue := by
  induction fields with
  | nil => simp only [toTable, Table.get?, Fields.get?, Option.map_none]
  | cons f fields ih =>
    rw [toTable, Table.get?, Fields.get?]
    split
    · rfl
    · exact ih

variable {n : Node} {fields : Fields} {inLine : Bool} {key : String}

/-- A node that is a table is proper as that table is. -/
theorem proper_table_iff : (table inLine fields).Proper ↔ Table.Proper (toTable fields) := by
  rw [Proper, toValue, Table.keysDistinct_iff]

theorem proper_empty (inLine : Bool) : (table inLine []).Proper := by
  rw [proper_table_iff, toTable]
  exact Table.proper_nil

theorem proper_of_not_table (h : n.toValue.isTable = false) : n.Proper :=
  Value.keysDistinct_of_not_table h

theorem proper_list (items : List Node) : (list items).Proper :=
  proper_of_not_table (by rw [toValue]; rfl)

theorem proper_text (codes : List Nat) : (text codes).Proper := by
  refine proper_of_not_table ?_
  rw [toValue]
  split
  · rfl
  · rfl

/-- A proper node may be put into a proper table. -/
theorem Proper.put (h : (table inLine fields).Proper) (hn : n.Proper) :
    (table inLine (fields.put key n)).Proper := by
  rw [proper_table_iff, toTable_put]
  exact (proper_table_iff.mp h).put hn

/-- A node in a proper table is proper. -/
theorem Proper.get? (h : (table inLine fields).Proper) (hkey : fields.get? key = some n) :
    n.Proper := by
  have htable : Table.get? (toTable fields) key = some n.toValue := by
    rw [get?_toTable, hkey]
    rfl
  exact (proper_table_iff.mp h).get? htable

theorem Proper.getD (h : (table inLine fields).Proper) (hn : n.Proper) :
    ((fields.get? key).getD n).Proper := by
  cases hkey : fields.get? key with
  | none => exact hn
  | some m => exact h.get? hkey

/-! ## Paths -/

/-- A value on the way, and what it is put back into: both are proper, the second if what is put
back is. -/
structure EntryProper (e : Node × (Node → Node)) : Prop where
  child : e.1.Proper
  putBack : ∀ n, n.Proper → (e.2 n).Proper

/-- What is found at a key of a proper node is proper. -/
theorem entry_proper (h : n.Proper) (key : String) : Ensures EntryProper (n.entry key) := by
  cases n with
  | table inLine fields => exact .ok ⟨h.getD (proper_empty false), fun m hm => h.put hm⟩
  | _ => exact .error _

/-- What is put back into a list or a text leaves it one. -/
theorem lastEntry_proper (n : Node) :
    Ensures (fun e => ∀ m, (e.2 m).Proper) n.lastEntry := by
  cases n with
  | list items =>
    rw [lastEntry]
    split
    · exact .ok fun m => proper_list _
    · exact .error _
  | text codes =>
    rw [lastEntry]
    split
    · exact .ok fun m => proper_text codes
    · exact .error _
  | _ => exact .error _

/-- A change in the depth of a node keeps it proper if it keeps the place proper that it is made
at. -/
theorem changeAt_proper {α : Type} {change : Node → Except Fault (Node × α)}
    (hchange : ∀ n, n.Proper → Ensures (·.1.Proper) (change n)) (path : List Step) (h : n.Proper) :
    Ensures (·.1.Proper) (changeAt change path n) := by
  induction path generalizing n with
  | nil => exact hchange n h
  | cons step path ih =>
    unfold changeAt
    cases step with
    | key name =>
      refine .bind (entry_proper h name) fun e he => .bind (ih he.child) fun r hr => ?_
      exact .ok (he.putBack _ hr)
    | last =>
      refine .bind (lastEntry_proper n) fun e he => .bind (.any _) fun r _ => ?_
      exact .ok (he _)

/-! ## Headers -/

/-- What a header opens at a key of a proper table is proper. -/
theorem openKey_proper {array atEnd : Bool} {implicit : Implicit}
    (h : (table inLine fields).Proper) :
    Ensures (·.1.Proper) (openKey array atEnd implicit key fields) := by
  have hfresh : (if array && atEnd then list [empty] else empty).Proper := by
    split
    · exact proper_list _
    · exact proper_empty false
  unfold openKey
  split
  · exact .ok hfresh
  · next m hm =>
    have hm := h.get? hm
    split
    · exact .ok hm
    split
    · split
      · exact .error _
      · exact .ok hm
    split
    · exact .error _
    split
    · exact .ok (proper_list _)
    · exact .error _

/-- One step of a header down from a value: what is put back is proper if it has to be, and what is
opened is proper where it matters. -/
structure StepProper (opened : Node) (back : Node → Node) : Prop where
  putBack : ∀ n, n.Proper → (back n).Proper
  child : opened.Proper ∨ ∀ n, (back n).Proper

/-- To open the tables of a header keeps the node proper in which they are opened. -/
theorem openTables_proper {array : Bool} {names : List String} {implicit : Implicit}
    (h : n.Proper) : Ensures (·.1.Proper) (openTables array implicit names n) := by
  induction names generalizing n implicit with
  | nil => exact .ok h
  | cons key rest ih =>
    have hrest : ∀ child putBack (steps : List Step) implicit (viaLast : Bool),
        StepProper child putBack → Ensures (·.1.Proper) (if viaLast then
            child.lastEntry >>= fun last => openTables array implicit rest last.1 >>= fun opened =>
              (.ok (putBack (last.2 opened.1), steps ++ Step.last :: opened.2.1, opened.2.2) :
                Except Fault (Node × List Step × Implicit))
          else openTables array implicit rest child >>= fun opened =>
            .ok (putBack opened.1, steps ++ opened.2.1, opened.2.2)) := by
      intro child putBack steps implicit viaLast he
      refine .ite ?_ ?_
      · refine .bind (lastEntry_proper _) fun last hlast => .bind (.any _) fun r _ => ?_
        exact .ok (he.putBack _ (hlast _))
      · rcases he.child with hchild | hany
        · exact .bind (ih hchild) fun r hr => .ok (he.putBack _ hr)
        · exact .bind (.any _) fun r _ => .ok (hany _)
    unfold openTables
    dsimp only
    split
    · exact .error _
    · cases n with
      | table inLine fields =>
        refine .bind (openKey_proper h) fun r hr => ?_
        exact hrest _ _ _ _ _ ⟨fun m hm => h.put hm, Or.inl hr⟩
      | _ =>
        refine .bind (lastEntry_proper _) fun last hlast => .bind (.any _) fun r _ => ?_
        exact hrest _ _ _ _ _ ⟨fun m _ => hlast _, Or.inr fun m => hlast _⟩

end Node

/-! ## Entries -/

/-- A proper node stays proper when a value is put in at a new key, if the value is proper. -/
theorem putNew_proper {key : String} {found : Except Pending Node} {n : Node} (h : n.Proper)
    (hfound : Ensures Node.Proper found) : Ensures (·.1.Proper) (putNew key found n) := by
  cases n with
  | table inLine fields =>
    unfold putNew
    dsimp only
    cases Fields.get? fields key with
    | some _ => exact .error _
    | none =>
      cases found with
      | ok n => exact .ok (h.put (hfound n rfl))
      | error pending => exact .ite (.error _) (.ok h)
  | _ => exact .error _

/-- Numbers, moments and truth values are no tables, so they are proper. -/
theorem readNumber_proper (cs : List Char) : Ensures Node.Proper (readNumber cs) := by
  have hfloat : ∀ x, (Node.float x).Proper := fun x =>
    Node.proper_of_not_table (by rw [Node.toValue]; rfl)
  have hint : ∀ i, (Node.int i).Proper := fun i =>
    Node.proper_of_not_table (by rw [Node.toValue]; rfl)
  unfold readNumber
  refine .ite (.map (.any _) fun x _ => hfloat _) ?_
  refine .ite (.ok (hfloat _)) (.ite (.ok (hfloat _)) ?_)
  split
  · exact .error _
  · exact .ok (hint _)

/-- An array is a list, whatever is in it. -/
theorem readArray_proper (fuel : Nat) (cs : List Char) :
    Ensures Node.Proper (readArray fuel cs) := by
  unfold readArray
  split
  · exact .error _
  · exact .bind (.any _) fun _ _ => .bind (.any _) fun items _ => .ok (Node.proper_list items)

/-- What is read with some fuel, whatever is read: a value, or entries that go into one. -/
structure ReadersProper (fuel : Nat) : Prop where
  value : ∀ tidy cs, Ensures Node.Proper (readValue fuel tidy cs)
  inLine : ∀ cs n, n.Proper → Ensures (·.1.Proper) (readInline fuel cs n)
  entry : ∀ line n, n.Proper → Ensures (·.1.Proper) (readEntry fuel line n)

namespace ReadersProper

theorem zero : ReadersProper 0 where
  value _ _ := by
    unfold readValue
    exact .error _
  inLine _ _ _ := by
    unfold readInline
    exact .error _
  entry _ _ _ := by
    unfold readEntry
    exact .error _

variable {fuel : Nat}

/-- Values are read as proper nodes if their parts are. -/
theorem readValue_succ (h : ReadersProper fuel) (tidy : Bool) (cs : List Char) :
    Ensures Node.Proper (readValue (fuel + 1) tidy cs) := by
  have hbool : ∀ b, (Node.bool b).Proper := fun b =>
    Node.proper_of_not_table (by rw [Node.toValue]; rfl)
  have hmoment : ∀ kind written, (Node.moment kind written).Proper := fun kind written =>
    Node.proper_of_not_table (by rw [Node.toValue]; rfl)
  unfold readValue
  cases cs with
  | nil => exact .error _
  | cons c cs =>
    refine .ite (.ok (hbool true)) (.ite (.ok (hbool false)) ?_)
    refine .ite (.map (.any _) fun codes _ => Node.proper_text codes) ?_
    refine .ite (readArray_proper fuel _) ?_
    refine .ite (.map (h.inLine _ _ (Node.proper_empty true)) fun _ hr => hr) ?_
    refine .ite (.ite (.ok (hmoment _ _)) (.error _)) ?_
    refine .bind (.any _) fun date? _ => ?_
    split
    · exact .ok (hmoment _ _)
    · exact .ok (hmoment _ _)
    · exact .ite (readNumber_proper _) (.error _)

/-- The fields of an inline table are put into a proper node. -/
theorem readInline_succ (h : ReadersProper fuel) (cs : List Char) {n : Node} (hn : n.Proper) :
    Ensures (·.1.Proper) (readInline (fuel + 1) cs n) := by
  unfold readInline
  refine .bind (.any _) fun entries _ => .foldlM hn fun r entry hr => ?_
  exact .ite (.ok hr) (h.entry entry _ hr)

/-- A line with a key and a value keeps the table proper that it is put in. -/
theorem readEntry_succ (h : ReadersProper fuel) (line : List Char) {n : Node} (hn : n.Proper) :
    Ensures (·.1.Proper) (readEntry (fuel + 1) line n) := by
  unfold readEntry
  refine .bind (.any _) fun halves _ => .bind (.any _) fun key _ => ?_
  refine Node.changeAt_proper (fun m hm => .bind (.any _) fun isLong _ => ?_) _ hn
  refine .ite (putNew_proper hm (.error _)) ?_
  exact .bind (h.value _ _) fun v hv => putNew_proper hm (.ok hv)

end ReadersProper

/-- The readers call one another with less fuel each time. -/
theorem readersProper (fuel : Nat) : ReadersProper fuel := by
  induction fuel with
  | zero => exact .zero
  | succ fuel ih =>
    exact ⟨ih.readValue_succ, fun cs _ hn => ih.readInline_succ cs hn,
      fun line _ hn => ih.readEntry_succ line hn⟩

/-! ## Documents -/

namespace Document

variable {d : Document}

theorem change_proper (h : d.root.Proper) {f : Node → Except Fault (Node × Option Pending)}
    (hf : ∀ n, n.Proper → Ensures (·.1.Proper) (f n)) : Ensures (·.root.Proper) (d.change f) :=
  .bind (Node.changeAt_proper hf d.path h) fun _ hr => .ok hr

theorem goOn_proper (h : d.root.Proper) (p : Pending) (line : List Char) :
    Ensures (·.root.Proper) (d.goOn p line) := by
  refine .bind (.any _) fun closed _ => .ite ?_ (.ok h)
  refine .bind ((readersProper depthLimit).value _ _) fun v hv => change_proper h fun n hn => ?_
  cases n with
  | table inLine fields => exact .ok (hn.put hv)
  | _ => exact .error _

theorem readNew_proper (h : d.root.Proper) (line : List Char) :
    Ensures (·.root.Proper) (d.readNew line) := by
  have hreaders := readersProper depthLimit
  unfold readNew
  split
  · exact .ok h
  · exact .bind (.any _) fun header _ => .bind (Node.openTables_proper h) fun r hr => .ok hr
  · refine .ite (.error _) (change_proper h fun n hn => ?_)
    exact .map (hreaders.inLine line n hn) fun r hr => hr
  · exact .ite (change_proper h fun n hn => hreaders.entry line n hn) (.ok h)

/-- Every line keeps a document proper. -/
theorem readLine_proper (h : d.root.Proper) (line : List Char) :
    Ensures (·.root.Proper) (d.readLine line) := by
  unfold readLine
  split
  · exact readNew_proper h _
  · exact .ite (.ok h) (goOn_proper h _ _)

end Document

/-- A document has each key once, on every level. -/
theorem readDocument_proper (document : List Char) :
    Ensures Table.Proper (readDocument document) := by
  refine .bind (.any _) fun lines _ => ?_
  have hstart : Document.empty.root.Proper := Node.proper_empty false
  refine .bind (.foldlM hstart fun d line hd => Document.readLine_proper hd line) fun d hd => ?_
  cases hroot : d.root with
  | table inLine fields =>
    rw [hroot] at hd
    exact .ok (Node.proper_table_iff.mp hd)
  | _ => exact .ok Table.proper_nil

end Toml

end MimeDatabase

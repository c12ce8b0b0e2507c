/-
Nothing is given twice in a document.

A document is a tree under construction, and a line changes it at one place: it opens a
table, puts a new one at the end of a list, or gives a key its value.  Whatever a line
does, it puts a node under a key, in the place of the one that was there, so the keys of
every table stay apart.  That is the invariant of a run of lines.  When the tree is read
off as a table of values, each table keeps its keys as names.
-/
import PgTriage.Config.Toml.Document
import PgTriage.Proofs.Config.Value

namespace PgTriage.Config.Toml

open Entries (Each)

theorem Nodes.put_eq (key : String) (node : Node) (t : Nodes) :
    t.put key node = Entries.put key node t := by
  induction t with
  | nil => rfl
  | cons e rest ih =>
      unfold Nodes.put Entries.put
      rw [ih]

namespace Node

/-- No table in the node, however deep, has a key or a name twice. -/
inductive Distinct : Node → Prop
  | value {v : Value} (h : v.Distinct) : Distinct (.value v)
  | table {origin : Origin} {entries : Nodes} (keys : (entries.map (·.1)).Nodup)
      (nodes : ∀ e ∈ entries, Distinct e.2) : Distinct (.table origin entries)
  | tables {earlier : List Nodes} {last : Nodes}
      (keys : ∀ t ∈ earlier ++ [last], (t.map (·.1)).Nodup)
      (nodes : ∀ t ∈ earlier ++ [last], ∀ e ∈ t, Distinct e.2) : Distinct (.tables earlier last)

theorem distinct_table_iff {origin : Origin} {t : Nodes} :
    Distinct (.table origin t) ↔ Each Distinct t := by
  constructor
  · intro h
    cases h with
    | table keys nodes => exact ⟨keys, nodes⟩
  · intro h
    exact .table h.keys h.values

theorem distinct_tables_iff {earlier : List Nodes} {last : Nodes} :
    Distinct (.tables earlier last) ↔ (∀ t ∈ earlier, Each Distinct t) ∧ Each Distinct last := by
  constructor
  · intro h
    cases h with
    | tables keys nodes =>
        exact ⟨fun t ht => ⟨keys t (by simp [ht]), nodes t (by simp [ht])⟩,
          ⟨keys last (by simp), nodes last (by simp)⟩⟩
  · intro h
    obtain ⟨hearlier, hlast⟩ := h
    have hall : ∀ t ∈ earlier ++ [last], Each Distinct t := by
      intro t ht
      rcases List.mem_append.1 ht with ht | ht
      · exact hearlier t ht
      · rwa [List.mem_singleton.1 ht]
    exact .tables (fun t ht => (hall t ht).keys) fun t ht => (hall t ht).values

/-! ### The values of nodes -/

theorem toTable_eq_map (t : Nodes) : toTable t = t.map fun e => (e.1, e.2.toValue) := by
  induction t with
  | nil => rw [toTable, List.map_nil]
  | cons e rest ih => rw [toTable, ih, List.map_cons]

theorem toTables_eq_map (ts : List Nodes) : toTables ts = ts.map fun t => .table (toTable t) := by
  induction ts with
  | nil => rw [toTables, List.map_nil]
  | cons t rest ih => rw [toTables, ih, List.map_cons]

theorem each_toTable {t : Nodes} (keys : (t.map (·.1)).Nodup)
    (values : ∀ e ∈ t, e.2.toValue.Distinct) : Each Value.Distinct (toTable t) := by
  rw [toTable_eq_map]
  refine ⟨?_, ?_⟩
  · rwa [List.map_map]
  · intro e he
    obtain ⟨d, hd, rfl⟩ := List.mem_map.1 he
    exact values d hd

theorem Distinct.toValue {node : Node} (h : node.Distinct) : node.toValue.Distinct := by
  induction h with
  | value h =>
      rw [Node.toValue]
      exact h
  | table keys nodes ih =>
      rw [Node.toValue, Value.distinct_table_iff]
      exact each_toTable keys ih
  | @tables earlier last keys nodes ih =>
      rw [Node.toValue, toTables_eq_map]
      refine .list fun v hv => ?_
      rw [← List.map_singleton (f := fun t => Value.table (toTable t)), ← List.map_append] at hv
      obtain ⟨t, ht, rfl⟩ := List.mem_map.1 hv
      exact Value.distinct_table_iff.2 (each_toTable (keys t ht) (ih t ht))

end Node

/-! ### One change -/

namespace Nodes

variable {v : Value} {t t' : Nodes}

/-- A node put under a key keeps the keys apart, if it keeps its own apart. -/
theorem each_put (ht : Each Node.Distinct t) {node : Node} (hnode : node.Distinct) (key : String) :
    Each Node.Distinct (t.put key node) := by
  rw [put_eq]
  exact ht.put hnode

/-- So does a node that is made of what comes of a change further down. -/
theorem each_map_put {α : Type} {inner : Option α} {wrap : α → Node} {key : String}
    (ht : Each Node.Distinct t) (hinner : ∀ a, inner = some a → (wrap a).Distinct)
    (h : inner.map (fun a => t.put key (wrap a)) = some t') : Each Node.Distinct t' := by
  obtain ⟨a, ha, rfl⟩ := Option.map_eq_some_iff.1 h
  exact each_put ht (hinner a ha) key

theorem each_set (hv : v.Distinct) {isOpen : Bool} {keys : List String}
    (ht : Each Node.Distinct t) (h : set v isOpen keys t = some t') : Each Node.Distinct t' := by
  -- Each part of the key leads one table down, and the table above puts back what comes of it.
  induction keys generalizing isOpen t t' with
  | nil => rw [set] at h; cases h
  | cons key keys ih =>
      cases keys with
      | nil =>
          rw [set] at h
          cases hget : t.get? key with
          | none =>
              rw [hget] at h
              cases isOpen with
              | false => cases h
              | true =>
                  obtain rfl := Option.some.inj h
                  exact each_put ht (.value hv) key
          | some node => rw [hget] at h; cases h
      | cons next keys =>
          simp only [set] at h
          cases hget : t.get? key with
          | none =>
              rw [hget] at h
              exact each_map_put ht
                (fun sub hsub => Node.distinct_table_iff.2 (ih (.nil _) hsub)) h
          | some node =>
              rw [hget] at h
              have hnode : node.Distinct := ht.get? hget
              cases node with
              | value w => cases h
              | table origin sub =>
                  have hsub := Node.distinct_table_iff.1 hnode
                  cases origin with
                  | declared => cases h
                  | implied | dotted =>
                      exact each_map_put ht
                        (fun sub' hset => Node.distinct_table_iff.2 (ih hsub hset)) h
              | tables earlier last =>
                  have htables := Node.distinct_tables_iff.1 hnode
                  exact each_map_put ht
                    (fun last' hset => Node.distinct_tables_iff.2 ⟨htables.1, ih htables.2 hset⟩) h

theorem each_alterAt {change : Option Node → Option Node}
    (hchange : ∀ node? node', (∀ node, node? = some node → node.Distinct) →
      change node? = some node' → node'.Distinct)
    {path : List String} (ht : Each Node.Distinct t) (h : alterAt change path t = some t') :
    Each Node.Distinct t' := by
  induction path generalizing t t' with
  | nil => rw [alterAt] at h; cases h
  | cons key path ih =>
      cases path with
      | nil =>
          rw [alterAt] at h
          exact each_map_put ht
            (fun node hnode => hchange _ _ (fun node hget => ht.get? hget) hnode) h
      | cons next path =>
          simp only [alterAt] at h
          cases hget : t.get? key with
          | none =>
              rw [hget] at h
              exact each_map_put ht
                (fun sub hsub => Node.distinct_table_iff.2 (ih (.nil _) hsub)) h
          | some node =>
              rw [hget] at h
              have hnode : node.Distinct := ht.get? hget
              cases node with
              | value w => cases h
              | table origin sub =>
                  have hsub := Node.distinct_table_iff.1 hnode
                  exact each_map_put ht
                    (fun sub' hset => Node.distinct_table_iff.2 (ih hsub hset)) h
              | tables earlier last =>
                  have htables := Node.distinct_tables_iff.1 hnode
                  exact each_map_put ht
                    (fun last' hset => Node.distinct_tables_iff.2 ⟨htables.1, ih htables.2 hset⟩) h

end Nodes

/-! ### A run of lines -/

/-- The value that a line gives has no name twice. -/
def Line.Distinct : Line → Prop
  | .entry _ v => v.Distinct
  | _ => True

namespace State

variable {node? : Option Node} {node' : Node}

theorem distinct_declare (hnode : ∀ node, node? = some node → node.Distinct)
    (h : declare node? = some node') : node'.Distinct := by
  cases node? with
  | none =>
      obtain rfl := Option.some.inj h
      exact Node.distinct_table_iff.2 (.nil _)
  | some node =>
      cases node with
      | value w => cases h
      | tables earlier last => cases h
      | table origin sub =>
          have hsub := Node.distinct_table_iff.1 (hnode _ rfl)
          cases origin with
          | implied =>
              obtain rfl := Option.some.inj h
              exact Node.distinct_table_iff.2 hsub
          | dotted | declared => cases h

theorem distinct_openElement (hnode : ∀ node, node? = some node → node.Distinct)
    (h : openElement node? = some node') : node'.Distinct := by
  cases node? with
  | none =>
      obtain rfl := Option.some.inj h
      exact Node.distinct_tables_iff.2 ⟨by simp, .nil _⟩
  | some node =>
      cases node with
      | value w => cases h
      | table origin sub => cases h
      | tables earlier last =>
          obtain ⟨hearlier, hlast⟩ := Node.distinct_tables_iff.1 (hnode _ rfl)
          obtain rfl := Option.some.inj h
          refine Node.distinct_tables_iff.2 ⟨fun t ht => ?_, .nil _⟩
          rcases List.mem_append.1 ht with ht | ht
          · exact hearlier t ht
          · rwa [List.mem_singleton.1 ht]

theorem distinct_setIn {key : List String} {v : Value} (hv : v.Distinct)
    (hnode : ∀ node, node? = some node → node.Distinct) (h : setIn key v node? = some node') :
    node'.Distinct := by
  cases node? with
  | none => cases h
  | some node =>
      cases node with
      | value w => cases h
      | table origin sub =>
          obtain ⟨sub', hset, rfl⟩ := Option.map_eq_some_iff.1 h
          exact Node.distinct_table_iff.2
            (Nodes.each_set hv (Node.distinct_table_iff.1 (hnode _ rfl)) hset)
      | tables earlier last =>
          obtain ⟨hearlier, hlast⟩ := Node.distinct_tables_iff.1 (hnode _ rfl)
          obtain ⟨last', hset, rfl⟩ := Option.map_eq_some_iff.1 h
          exact Node.distinct_tables_iff.2 ⟨hearlier, Nodes.each_set hv hlast hset⟩

/-- One line keeps the keys of every table apart. -/
theorem each_step {s s' : State} {line : Line} (hline : line.Distinct)
    (hs : Each Node.Distinct s.root) (h : s.step line = some s') : Each Node.Distinct s'.root := by
  cases line with
  | table path =>
      obtain ⟨root, hroot, rfl⟩ := Option.map_eq_some_iff.1 h
      exact Nodes.each_alterAt (fun _ _ => distinct_declare) hs hroot
  | element path =>
      obtain ⟨root, hroot, rfl⟩ := Option.map_eq_some_iff.1 h
      exact Nodes.each_alterAt (fun _ _ => distinct_openElement) hs hroot
  | entry key v =>
      obtain ⟨root, hroot, rfl⟩ := Option.map_eq_some_iff.1 h
      by_cases hcurrent : s.current.isEmpty
      · rw [if_pos hcurrent] at hroot
        exact Nodes.each_set hline hs hroot
      · rw [if_neg hcurrent] at hroot
        exact Nodes.each_alterAt (fun _ _ => distinct_setIn hline) hs hroot

end State

/-- What every step of a run keeps, the whole run keeps. -/
theorem foldlM_preserves {σ α : Type} {P : σ → Prop} {step : σ → α → Option σ} {l : List α}
    (hstep : ∀ a ∈ l, ∀ s s', P s → step s a = some s' → P s') {s s' : σ} (hs : P s)
    (h : l.foldlM step s = some s') : P s' := by
  induction l generalizing s with
  | nil =>
      obtain rfl := Option.some.inj h
      exact hs
  | cons a rest ih =>
      rw [List.foldlM_cons] at h
      obtain ⟨next, hnext, hrest⟩ := Option.bind_eq_some_iff.1 h
      exact ih (fun b hb => hstep b (List.mem_cons_of_mem a hb))
        (hstep a List.mem_cons_self s next hs hnext) hrest

/-- The table of a document has no name twice. -/
theorem each_tableOfLines {lines : List Line} (hlines : ∀ line ∈ lines, line.Distinct) {t : Table}
    (h : tableOfLines lines = some t) : Each Value.Distinct t := by
  obtain ⟨s, hs, rfl⟩ := Option.map_eq_some_iff.1 h
  have hroot : Each Node.Distinct s.root :=
    foldlM_preserves (P := fun s => Each Node.Distinct s.root)
      (fun line hline _ _ => State.each_step (hlines line hline)) (.nil _) hs
  exact Node.each_toTable hroot.keys fun e he => (hroot.values e he).toValue

/-- The table that is written in braces has no name twice. -/
theorem each_tableOfEntries {entries : List (List String × Value)}
    (hentries : ∀ e ∈ entries, e.2.Distinct) {t : Table} (h : tableOfEntries entries = some t) :
    Each Value.Distinct t := by
  obtain ⟨nodes, hnodes, rfl⟩ := Option.map_eq_some_iff.1 h
  have heach : Each Node.Distinct nodes :=
    foldlM_preserves (fun e he _ _ => Nodes.each_set (hentries e he)) (.nil _) hnodes
  exact Node.each_toTable heach.keys fun e he => (heach.values e he).toValue

end PgTriage.Config.Toml

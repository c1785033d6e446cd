import Cartouche.Proofs.KeyOrder
import Cartouche.Proofs.RoundTrip
import Cartouche.Proofs.ShapeFaults

/-!
Data read from a text as it stands, and by way of a tree whose keys ascend. Both take the same
texts, and of an accepted text both say what it says; they differ in the order of the keys alone.
-/
namespace Cartouche
open Decimal Json

/-- The fields whose keys can be read. -/
def namedFields (fields : List (Except Fault String × Node)) : List (String × Node) :=
  fields.filterMap fun field => field.1.toOption.map (·, field.2)

/-- Of several fields with one key, the last. -/
def lastField? (fields : List (Except Fault String × Node)) (key : String) : Option Node :=
  Table.get? (namedFields fields).reverse key

/-- A value that a node says: the same leaves, with numbers rounded as numbers are, the same items,
and for every key that stands in an object the value of its last field. -/
inductive Says : Node → Value → Prop where
  | null : Says .null .null
  | bool (b : Bool) : Says (.bool b) (.bool b)
  | number (n : Number) (real : Except Fault Float) :
      Says (.number (.ok n) real) (.number n.toFloat)
  | text (s : String) : Says (.text (.ok s)) (.text s)
  | list {items : List Node} {values : List Value} (length : values.length = items.length)
      (said : ∀ (i : Nat) item v, items[i]? = some item → values[i]? = some v → Says item v) :
      Says (.list items none) (.list values)
  | object {fields : List (Except Fault String × Node)} {t : Table Value} (nodup : t.keys.Nodup)
      (keys : ∀ key, (t.get? key).isSome = (lastField? fields key).isSome)
      (said : ∀ key node v, lastField? fields key = some node → t.get? key = some v →
        Says node v) :
      Says (.object fields none) (.object t)

namespace Value

mutual
/-- The same data, with the keys of every object in the order of their bytes. -/
def sortKeys : Value → Value
  | .list items => .list (itemsSortKeys items)
  | .object fields => .object (Table.sorted (fieldsSortKeys fields))
  | v => v

def itemsSortKeys : List Value → List Value
  | [] => []
  | item :: rest => item.sortKeys :: itemsSortKeys rest

def fieldsSortKeys : List (String × Value) → List (String × Value)
  | [] => []
  | (key, v) :: rest => (key, v.sortKeys) :: fieldsSortKeys rest
end

/-- The kinds of data in the order in which they are tried. -/
def kinds : List (Reader Value) := [
  Reader.unit.map fun _ => .null,
  Reader.bool.map .bool,
  Reader.real.map .number,
  Reader.string.map .text,
  (Reader.list reader).map .list,
  (Reader.table reader).map .object]

end Value

section Fields
variable {key : String} {node : Node} {fields : List (Except Fault String × Node)}

theorem namedFields_cons_ok (key : String) (node : Node)
    (rest : List (Except Fault String × Node)) :
    namedFields ((.ok key, node) :: rest) = (key, node) :: namedFields rest :=
  rfl

theorem namedFields_cons_error (fault : Fault) (node : Node)
    (rest : List (Except Fault String × Node)) :
    namedFields ((.error fault, node) :: rest) = namedFields rest :=
  rfl

theorem mem_of_lastField? (h : lastField? fields key = some node) : (.ok key, node) ∈ fields := by
  have hnamed : (key, node) ∈ namedFields fields :=
    List.mem_reverse.mp (Table.mem_of_get?_eq_some h)
  obtain ⟨⟨written, child⟩, hm, hnamed⟩ := List.mem_filterMap.mp hnamed
  cases written with
  | error fault => cases hnamed
  | ok k =>
    cases hnamed
    exact hm

end Fields

namespace Json.Tree

theorem ofNodes_eq_map (nodes : List Node) : ofNodes nodes = nodes.map ofNode := by
  induction nodes with
  | nil => rfl
  | cons node rest ih => rw [ofNodes, ih, List.map_cons]

theorem ofFields_eq_foldl (fields : List (Except Fault String × Node)) (t : Table Tree) :
    ofFields fields t = ((namedFields fields).map fun e => (e.1, ofNode e.2)).foldl
      (fun t e => t.putAscending e.1 e.2) t := by
  induction fields generalizing t with
  | nil => rfl
  | cons field rest ih =>
    obtain ⟨written, child⟩ := field
    cases written with
    | error fault => rw [ofFields, ih, namedFields_cons_error]
    | ok k => rw [ofFields, ih, namedFields_cons_ok, List.map_cons, List.foldl_cons]

theorem ofFields_ascending (fields : List (Except Fault String × Node)) :
    Table.Ascending (ofFields fields []) := by
  rw [ofFields_eq_foldl]
  exact Table.Ascending.foldl_putAscending List.Pairwise.nil _

theorem get?_ofFields (fields : List (Except Fault String × Node)) (key : String) :
    Table.get? (ofFields fields []) key = (lastField? fields key).map ofNode := by
  rw [ofFields_eq_foldl, Table.get?_foldl_putAscending, Table.get?_nil, Option.or_none,
    ← List.map_reverse, Table.get?_map]
  rfl

end Json.Tree

namespace Value

theorem ofFields_eq_map (fields : List (Except Fault String × Node)) :
    ofFields fields = (namedFields fields).map fun e => (e.1, ofNode e.2) := by
  induction fields with
  | nil => rfl
  | cons field rest ih =>
    obtain ⟨written, child⟩ := field
    cases written with
    | error fault => rw [ofFields, ih, namedFields_cons_error]
    | ok k => rw [ofFields, ih, namedFields_cons_ok, List.map_cons]

theorem get?_ofFields (fields : List (Except Fault String × Node)) (key : String) :
    (Table.ofList (ofFields fields)).get? key = (lastField? fields key).map ofNode := by
  rw [Table.get?_ofList, ofFields_eq_map, ← List.map_reverse, Table.get?_map]
  rfl

theorem ofTrees_eq_map (trees : List Tree) : ofTrees trees = trees.map ofTree := by
  induction trees with
  | nil => rfl
  | cons tree rest ih => rw [ofTrees, ih, List.map_cons]

theorem ofTreeFields_eq_map (fields : List (String × Tree)) :
    ofTreeFields fields = fields.map fun e => (e.1, ofTree e.2) := by
  induction fields with
  | nil => rfl
  | cons field rest ih => rw [ofTreeFields, ih, List.map_cons]

theorem itemsSortKeys_eq_map (items : List Value) : itemsSortKeys items = items.map sortKeys := by
  induction items with
  | nil => rfl
  | cons item rest ih => rw [itemsSortKeys, ih, List.map_cons]

theorem fieldsSortKeys_eq_map (fields : List (String × Value)) :
    fieldsSortKeys fields = fields.map fun e => (e.1, e.2.sortKeys) := by
  induction fields with
  | nil => rfl
  | cons field rest ih => rw [fieldsSortKeys, ih, List.map_cons]

/-- What a tree says is what its node says, in the order of the tree. -/
theorem ofTree_ofNode (node : Node) : ofTree (Tree.ofNode node) = (ofNode node).sortKeys := by
  induction node using Node.inductOn with
  | number general real => cases general <;> rfl
  | text content => cases content <;> rfl
  | list items ending ih =>
    rw [Tree.ofNode, ofTree, ofNode, sortKeys, Tree.ofNodes_eq_map, ofTrees_eq_map, ofNodes_eq_map,
      itemsSortKeys_eq_map, List.map_map, List.map_map]
    exact congrArg Value.list (List.map_congr_left ih)
  | object fields ending ih =>
    have htree : Table.Ascending ((Tree.ofFields fields []).map fun e => (e.1, ofTree e.2)) :=
      (Tree.ofFields_ascending fields).map ofTree
    have hnodup := Table.nodup_keys_map (Table.nodup_keys_ofList (ofFields fields)) sortKeys
    rw [Tree.ofNode, ofTree, ofNode, sortKeys, ofTreeFields_eq_map, fieldsSortKeys_eq_map,
      Table.ofList_of_nodup htree.nodup]
    refine congrArg Value.object (htree.ext (Table.sorted_ascending hnodup) ?_)
    intro key
    rw [Table.get?_sorted hnodup, Table.get?_map, Table.get?_map, Tree.get?_ofFields,
      get?_ofFields]
    cases hlast : lastField? fields key with
    | none => rfl
    | some node => exact congrArg some (ih _ (mem_of_lastField? hlast))
  | _ => rfl

/-- A text that is read to its end, and to a node without faults, is a text of that node. -/
theorem isTextOf_read {text : List Char}
    (hcheck : (Json.read .stepwise text).1.check (.top .json) = .ok ())
    (hend : (Json.read .stepwise text).2 = none) :
    IsTextOf (Json.read .stepwise text).1 text := by
  unfold Json.read at hcheck hend ⊢
  rcases hread : readValue .stepwise (2 * text.length + 1) text with ⟨node, left⟩
  rw [hread] at hcheck hend
  cases left with
  | none =>
    -- A node that breaks off has a fault, as reading the same text over again shows.
    obtain ⟨start, rest, htext, -, -, hcuts⟩ := (breaksWithin .stepwise _).value hread
    have hlength : 2 * start.length ≤ 2 * text.length + 1 := by
      rw [htext, List.length_append]
      omega
    have hcut := hcuts rest _ (.inl rfl) hlength
    exact absurd hcheck ((carries_check node _ _ hcut).ne_ok ())
  | some rest =>
    obtain ⟨gap, body, hgap, hspells, -, htext⟩ := (acceptsWithin .stepwise _).value hread
    have hrest : skipSpace rest = [] := by simpa using hend
    exact ⟨gap, body, rest, hgap, hspells, isGap_of_skipSpace_eq_nil hrest, htext⟩

/-- A node is looked through and kept, and something is made of it. -/
def keeping {α : Type} (f : Node → α) : Reader α := fun s node => do
  let _ ← Reader.keep s node
  return f node

theorem map_parse_keeping {α β : Type} (f : Node → α) (g : α → β) (text : String) :
    ((keeping f).parse text).map g = (keeping (g ∘ f)).parse text := by
  rw [Reader.parse, Reader.parse]
  generalize Json.read .stepwise text.toList = said
  obtain ⟨node, after⟩ := said
  dsimp only
  rw [Reader.run, Reader.run, keeping, keeping]
  cases Reader.keep (.top .json) node with
  | error fault => rfl
  | ok s => cases after <;> rfl

/-- An accepted text is read to its end, and its node has no faults and makes what was read. -/
theorem of_parse_keeping_eq_ok {α : Type} {f : Node → α} {text : String} {a : α}
    (h : (keeping f).parse text = .ok a) :
    (Json.read .stepwise text.toList).1.check (.top .json) = .ok () ∧
      (Json.read .stepwise text.toList).2 = none ∧
      a = f (Json.read .stepwise text.toList).1 := by
  rw [Reader.parse] at h
  generalize Json.read .stepwise text.toList = said at h ⊢
  obtain ⟨node, after⟩ := said
  obtain ⟨b, hb, hafter⟩ := bind_eq_ok_iff.mp h
  obtain ⟨_, hkeep, hb⟩ := bind_eq_ok_iff.mp hb
  obtain ⟨_, hcheck, _⟩ := bind_eq_ok_iff.mp hkeep
  cases after with
  | some fault => cases hafter
  | none =>
    cases hb
    cases hafter
    exact ⟨hcheck, rfl, rfl⟩

/-- Both readings take the same texts and meet the same faults. -/
theorem parseSorted_eq_map (text : String) : parseSorted text = (parse text).map sortKeys := by
  have htree : parseSorted text = (keeping (ofTree ∘ Tree.ofNode)).parse text :=
    map_parse_keeping Tree.ofNode ofTree text
  have hdata : (parse text).map sortKeys = (keeping (sortKeys ∘ ofNode)).parse text :=
    map_parse_keeping ofNode sortKeys text
  rw [htree, hdata]
  exact congrArg (fun f => (keeping f).parse text) (funext ofTree_ofNode)

/-! What a node says. -/

theorem check_of_checkItems {s : Site} {items : List Node} (h : checkItems s items = .ok ()) :
    ∀ item ∈ items, item.check s = .ok () := by
  induction items with
  | nil => simp
  | cons item rest ih =>
    obtain ⟨_, hitem, hrest⟩ := bind_eq_ok_iff.mp h
    exact List.forall_mem_cons.mpr ⟨hitem, ih hrest⟩

theorem check_of_checkFields {s : Site} {fields : List (Except Fault String × Node)}
    (h : checkFields s fields = .ok ()) : ∀ field ∈ fields, field.2.check s = .ok () := by
  induction fields with
  | nil => simp
  | cons field rest ih =>
    obtain ⟨_, _, h⟩ := bind_eq_ok_iff.mp h
    obtain ⟨_, hfield, hrest⟩ := bind_eq_ok_iff.mp h
    exact List.forall_mem_cons.mpr ⟨hfield, ih hrest⟩

theorem eq_none_of_atBreak {ending : Option Break} (h : atBreak ending = .ok ()) :
    ending = none := by
  cases ending with
  | none => rfl
  | some place => cases h

/-- A node without faults says the data that is made of it. -/
theorem says_ofNode {node : Node} {s : Site} (h : node.check s = .ok ()) :
    Says node (ofNode node) := by
  induction node using Node.inductOn generalizing s with
  | null => exact .null
  | bool b => exact .bool b
  | number general real =>
    cases general with
    | error fault => cases h
    | ok n => exact .number n real
  | text content =>
    cases content with
    | error fault => cases h
    | ok s => exact .text s
  | list items ending ih =>
    obtain ⟨inner, _, h⟩ := bind_eq_ok_iff.mp h
    obtain ⟨_, hitems, hending⟩ := bind_eq_ok_iff.mp h
    obtain rfl := eq_none_of_atBreak hending
    rw [ofNode, ofNodes_eq_map]
    refine .list (List.length_map _) ?_
    intro i item v hitem hv
    rw [List.getElem?_map, hitem] at hv
    cases hv
    have hm := List.mem_of_getElem? hitem
    exact ih item hm (check_of_checkItems hitems item hm)
  | object fields ending ih =>
    obtain ⟨inner, _, h⟩ := bind_eq_ok_iff.mp h
    obtain ⟨_, hfields, hending⟩ := bind_eq_ok_iff.mp h
    obtain rfl := eq_none_of_atBreak hending
    rw [ofNode]
    refine .object (Table.nodup_keys_ofList _) ?_ ?_
    · intro key
      rw [get?_ofFields, Option.isSome_map]
    · intro key node v hlast hv
      rw [get?_ofFields, hlast] at hv
      cases hv
      have hm := mem_of_lastField? hlast
      exact ih _ hm (check_of_checkFields hfields _ hm)
  | broken place => cases h

/-- What a node says does not depend on the order of the keys. -/
theorem says_sortKeys {node : Node} {v : Value} (h : Says node v) : Says node v.sortKeys := by
  induction h with
  | null => exact .null
  | bool b => exact .bool b
  | number n real => exact .number n real
  | text s => exact .text s
  | list length said ih =>
    rw [sortKeys, itemsSortKeys_eq_map]
    refine .list ((List.length_map _).trans length) ?_
    intro i item w hitem hw
    rw [List.getElem?_map] at hw
    obtain ⟨v, hv, rfl⟩ := Option.map_eq_some_iff.mp hw
    exact ih i item v hitem hv
  | @object fields t nodup keys said ih =>
    have hnodup := Table.nodup_keys_map nodup sortKeys
    rw [sortKeys, fieldsSortKeys_eq_map]
    refine .object (Table.nodup_keys_sorted hnodup) ?_ ?_
    · intro key
      rw [Table.get?_sorted hnodup, Table.get?_map, Option.isSome_map, keys]
    · intro key node w hlast hw
      rw [Table.get?_sorted hnodup, Table.get?_map] at hw
      obtain ⟨v, hv, rfl⟩ := Option.map_eq_some_iff.mp hw
      exact ih key node v hlast hv

/-! Values by trial. -/

section Trial
variable {s s' : Site} {node : Node}

theorem enter_of_kept (hs : s.kept) : s.enter = .ok s := by
  have hstream : s.isStreaming = false := by simp [Site.isStreaming, hs]
  rw [Site.enter, if_neg (by simp [hstream])]

theorem isRealText_of_kept (hs : s.kept) : Reader.isRealText s = false := by
  simp [Reader.isRealText, hs]

theorem reader_of_kept (hs : s.kept) (node : Node) : reader s node = .ok (ofNode node) := by
  rw [reader, Reader.keep, if_pos hs]
  rfl

theorem list_of_kept (hs : s.kept) (items : List Node) :
    Reader.list reader s (.list items none) = .ok (items.map ofNode) := by
  have hitem : reader s = fun item => pure (ofNode item) := funext (reader_of_kept hs)
  rw [Reader.list, enter_of_kept hs, ok_bind, hitem, List.mapM_pure]
  rfl

theorem tableFields_of_kept (hs : s.kept) {fields : List (Except Fault String × Node)}
    (h : checkFields s' fields = .ok ()) (t : Table Value) :
    Reader.tableFields reader s fields t =
      .ok ((ofFields fields).foldl (fun t e => t.put e.1 e.2) t) := by
  induction fields generalizing t with
  | nil => rfl
  | cons field rest ih =>
    obtain ⟨written, child⟩ := field
    obtain ⟨key, rfl, hrest⟩ := bind_eq_ok_iff.mp h
    obtain ⟨_, _, hrest⟩ := bind_eq_ok_iff.mp hrest
    rw [Reader.tableFields, ok_bind, reader_of_kept hs, ok_bind, ih hrest]
    rfl

theorem table_of_kept (hs : s.kept) {fields : List (Except Fault String × Node)}
    (h : checkFields s' fields = .ok ()) :
    Reader.table reader s (.object fields none) = .ok (Table.ofList (ofFields fields)) := by
  rw [Reader.table, enter_of_kept hs, ok_bind, tableFields_of_kept hs h]
  rfl

/-- A node that was looked through and kept fits one of the kinds, and gives its data. -/
theorem findSome?_kinds (hs : s.kept) (h : node.check s' = .ok ()) :
    kinds.findSome? (fun r => (r s node).toOption) = some (ofNode node) := by
  cases node with
  | null => rfl
  | bool b => rfl
  | number general real =>
    cases general with
    | error fault => cases h
    | ok n =>
      simp only [kinds, List.findSome?_cons, Reader.map, Reader.real, isRealText_of_kept hs]
      rfl
  | text content =>
    cases content with
    | error fault => cases h
    | ok t =>
      simp only [kinds, List.findSome?_cons, Reader.map, Reader.real, isRealText_of_kept hs]
      rfl
  | list items ending =>
    obtain ⟨inner, _, h⟩ := bind_eq_ok_iff.mp h
    obtain ⟨_, _, hending⟩ := bind_eq_ok_iff.mp h
    obtain rfl := eq_none_of_atBreak hending
    rw [ofNode, ofNodes_eq_map]
    simp only [kinds, List.findSome?_cons, Reader.map, Reader.real, isRealText_of_kept hs,
      list_of_kept hs]
    rfl
  | object fields ending =>
    obtain ⟨inner, _, h⟩ := bind_eq_ok_iff.mp h
    obtain ⟨_, hfields, hending⟩ := bind_eq_ok_iff.mp h
    obtain rfl := eq_none_of_atBreak hending
    simp only [kinds, List.findSome?_cons, Reader.map, Reader.real, isRealText_of_kept hs,
      table_of_kept hs hfields]
    rfl
  | broken place => cases h

end Trial

/-- The data of a text is found by keeping its node and trying one kind after the other. -/
theorem parse_eq_firstOf (text : String) :
    parse text = (Reader.firstOf "Value" kinds).parse text := by
  rw [parse, Reader.parse, Reader.parse]
  generalize Json.read .stepwise text.toList = said
  obtain ⟨node, after⟩ := said
  dsimp only
  rw [Reader.run, Reader.run]
  refine congrArg (· >>= _) ?_
  have hkept : (Site.top .json).kept = false := rfl
  rw [reader, Reader.firstOf, Reader.keep, hkept]
  cases hcheck : node.check (.top .json) with
  | error fault => rfl
  | ok _ =>
    have hkinds := @findSome?_kinds { Site.top .json with kept := true } _ node rfl hcheck
    simp only [Bool.false_eq_true, if_false, ok_bind, hkinds]
    rfl

/-- From every text the two readings take the same data, up to the order of the keys: what comes by
way of the tree is what is found by trial, with the keys of every object in the order of their
bytes. From a text that has a tree both take data, and both times the text says that data: it is the
text of a node of which the value of a key is that of its last field, and a number is rounded from
what is written. -/
theorem readings_agree (text : String) :
    parseSorted text = (parse text).map sortKeys ∧
    parse text = (Reader.firstOf "Value" kinds).parse text ∧
    ∀ tree, Tree.reader.parse text = .ok tree → ∃ v, parse text = .ok v ∧
      ofTree tree = v.sortKeys ∧ IsTextOf (Json.read .stepwise text.toList).1 text.toList ∧
      Says (Json.read .stepwise text.toList).1 v ∧
      Says (Json.read .stepwise text.toList).1 (ofTree tree) := by
  refine ⟨parseSorted_eq_map text, parse_eq_firstOf text, ?_⟩
  intro tree htree
  have hsorted : (parse text).map sortKeys = .ok (ofTree tree) := by
    rw [← parseSorted_eq_map, parseSorted, htree]
    rfl
  obtain ⟨v, hv, hkeys⟩ := map_eq_ok_iff.mp hsorted
  obtain ⟨hcheck, hend, hnode⟩ := @of_parse_keeping_eq_ok _ ofNode text v hv
  have hsays := says_ofNode hcheck
  rw [← hnode] at hsays
  refine ⟨v, hv, hkeys.symm, isTextOf_read hcheck hend, hsays, ?_⟩
  rw [← hkeys]
  exact says_sortKeys hsays

/-- A text with a key that stands twice, and with one of two bytes before one of one byte. -/
def twiceKeyed : String := " \x7b\"b\":1, \"é\":[], \"a\":4e0, \"b\":2\x7d"

/-- Both times the last field counts, and by way of the tree the keys come in their order. -/
theorem twiceKeyed_read : ∃ tree v, Tree.reader.parse twiceKeyed = .ok tree ∧
    parse twiceKeyed = .ok v ∧ ofTree tree = v.sortKeys ∧
    IsTextOf (Json.read .stepwise twiceKeyed.toList).1 twiceKeyed.toList ∧
    (parse twiceKeyed).toOption.map (fun v => v.toJson.line) =
      some "\x7b\"b\":2,\"é\":[],\"a\":4\x7d" ∧
    (parseSorted twiceKeyed).toOption.map (fun v => v.toJson.line) =
      some "\x7b\"a\":4,\"b\":2,\"é\":[]\x7d" := by
  have hok : (Tree.reader.parse twiceKeyed).isOk := by decide +kernel
  cases htree : Tree.reader.parse twiceKeyed with
  | error fault =>
    rw [htree] at hok
    cases hok
  | ok tree =>
    obtain ⟨_, _, hread⟩ := readings_agree twiceKeyed
    obtain ⟨v, hv, hkeys, htext, _, _⟩ := hread tree htree
    exact ⟨tree, v, rfl, hv, hkeys, htext, by decide +kernel, by decide +kernel⟩

end Value

end Cartouche

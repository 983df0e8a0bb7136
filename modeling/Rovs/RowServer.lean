import Rovs.Server

/-!
# A server that carries out operations on its rows

The smallest server that does what `Server.Documented` asks for: it reads values without regard to
their column, knows the references of bridges, ports, controllers, interfaces and sample
collectors, checks VLAN tags, and refuses every operation that it does not know.

`rowServer_documented` is the main result; it shows that what is documented can be done.
`bridgeDatabase` is a small database of this server, and `bridgeDatabase_consistent` says that the
server can hold it.
-/

namespace Rovs.Ovsdb.Server.RowServer

open Json Transaction

/-! ### Reading values -/

section Reading

variable (fmt : UuidFormat) (names : String → Option Uuid)

/-- `["uuid", ..]`, `["named-uuid", ..]` or another atom. -/
def atomOf (v : Value) : Atom :=
  match v with
  | .array [tag, arg] =>
    if tag.asStr = some "uuid" then (arg.asStr.bind fmt.parse).elim (.plain v) .uuid
    else if tag.asStr = some "named-uuid" then (arg.asStr.bind names).elim (.plain v) .uuid
    else .plain v
  | v => .plain v

/-- `["set", [..]]`, `["map", [..]]` or one atom. -/
def contents (v : Value) : Set Element :=
  match v with
  | .array [tag, elements] =>
    if tag.asStr = some "set" then
      {e | ∃ x ∈ elements.asArray.getD [], e = .one (atomOf fmt names x)}
    else if tag.asStr = some "map" then
      {e | ∃ k x, .array [k, x] ∈ elements.asArray.getD [] ∧
        e = .pair (atomOf fmt names k) (atomOf fmt names x)}
    else {.one (atomOf fmt names v)}
  | v => {.one (atomOf fmt names v)}

/-- A row with some columns written. -/
def written (members : List (String × Value)) (row : Row) : Row := fun column =>
  (members.lookup column).elim (row column) (contents fmt names)

/-- A row with one mutation made. -/
def mutated (row : Row) (mutation : Value) : Row := fun column =>
  match mutation with
  | .array [name, mutator, arg] =>
    if name.asStr = some column then
      if mutator.asStr = some "insert" then row column ∪ contents fmt names arg
      else if mutator.asStr = some "delete" then row column \ contents fmt names arg
      else row column
    else row column
  | _ => row column

/-! ### Operations -/

/-- A clause of a condition; the library writes equations only. -/
def Satisfies (u : Uuid) (row : Row) (clause : Value) : Prop :=
  match clause with
  | .array [column, operator, v] =>
    operator.asStr = some "==" ∧
      if column.asStr = some "_uuid" then {ref u} = contents fmt names v
      else ∃ name, column.asStr = some name ∧ row name = contents fmt names v
  | _ => False

/-- The rows that a condition finds. -/
def Finds (condition : Value) (u : Uuid) (row : Row) : Prop :=
  ∀ clause ∈ condition.asArray.getD [], Satisfies fmt names u row clause

def whereOf (operation : Value) : Value := (operation.get "where").getD (.array [])

def mutationsOf (operation : Value) : List Value :=
  ((operation.get "mutations").bind Value.asArray).getD []

/-- A VLAN tag has twelve bits. -/
def Legal (_ column : String) (v : Value) : Prop :=
  column = "tag" → ∃ n : Nat, n < 4096 ∧ v = .number (.int n)

/-- A row without references, but a port has one to an interface that is not there. -/
def defaults (table : String) : Row := fun column =>
  if table = "Port" ∧ column = "interfaces" then {ref 0} else ∅

open Classical in
/-- One operation, with the UUID that a row which it inserts is given. -/
noncomputable def execute (new : Uuid) (db : Rows) (operation : Value) : Option Rows :=
  (tableOf operation).bind fun table =>
    if ∃ member ∈ rowOf operation, ¬ Legal table member.1 member.2 then none
    else if kindOf operation = some "insert" then
      some (db.insert table new (written fmt names (rowOf operation) (defaults table)))
    else if kindOf operation = some "update" then
      some (db.change table (Finds fmt names (whereOf operation))
        (written fmt names (rowOf operation)))
    else if kindOf operation = some "mutate" then
      some (db.change table (Finds fmt names (whereOf operation))
        fun row => (mutationsOf operation).foldl (mutated fmt names) row)
    else if kindOf operation = some "delete" then
      some (db.remove table (Finds fmt names (whereOf operation)))
    else none

end Reading

/-! ### The server -/

/-- The tables that columns refer to. -/
def strongTable (table column : String) : Option String :=
  if table = "Flow_Sample_Collector_Set" ∧ column = "bridge" then some "Bridge"
  else refTable table column

def refersTo (table column : String) (e : Element) : Set (String × Uuid) :=
  {r | strongTable table column = some r.1 ∧ e = ref r.2}

/-- Bridges, ports, interfaces and controllers are kept by references only. -/
def strongRefs : RefScheme String Uuid Row where
  refs table row := {r | ∃ column, ∃ e ∈ row column, r ∈ refersTo table column e}
  keeps table := table ∉ topologyTables

/-- What the server does before a transaction ends. -/
noncomputable def started (fmt : UuidFormat) : Server where
  refersTo := refersTo
  root table := table ∉ topologyTables
  defaults := defaults
  contents names _ _ := contents fmt names
  Legal := Legal
  execute := execute fmt
  settle := strongRefs.collect
  Valid _ := True
  commit _ _ _ := none

open Classical in
noncomputable def rowServer (fmt : UuidFormat) : Server :=
  { started fmt with
    commit := fun newRow db operations =>
      ((started fmt).performed newRow db operations).bind fun rows =>
        if (operations.filterMap uuidName).Nodup ∧ strongRefs.Intact rows ∧
          Indexed (strongRefs.collect rows) then some (strongRefs.collect rows) else none }

/-! ### Its schema -/

theorem strongTable_eq {table column target : String} (h : refTable table column = some target) :
    strongTable table column = some target := by
  rw [strongTable, if_neg]
  · exact h
  · rintro ⟨rfl, rfl⟩
    cases h

theorem strongTable_plain (table : String) {column : String} (h : column ∈ plainColumns) :
    strongTable table column = none := by
  simp only [plainColumns, List.mem_cons, List.not_mem_nil, or_false] at h
  rcases h with rfl | rfl | rfl | rfl | rfl | rfl | rfl | rfl <;> simp [strongTable, refTable]

theorem rowServer_schema (fmt : UuidFormat) : (rowServer fmt).HasSchema where
  refers table column target htarget e r := by
    change strongTable table column = some r.1 ∧ e = ref r.2 ↔ _
    rw [strongTable_eq htarget, Option.some.injEq, eq_comm]
  refers_plain table e column hcolumn := by
    ext r
    change strongTable table column = some r.1 ∧ e = ref r.2 ↔ _
    simp [strongTable_plain table hcolumn]
  refers_default table htable column hne e he := by
    have hempty : defaults table column = ∅ := by
      rw [defaults, if_neg]
      rintro ⟨rfl, rfl⟩
      exact hne rfl
    change e ∈ defaults table column at he
    rw [hempty] at he
    exact absurd he (Set.notMem_empty _)
  root_switch := by
    change "Open_vSwitch" ∉ topologyTables
    decide
  not_root table htable := by
    intro hroot
    have htables : ∀ t ∈ namedTables, t ∈ topologyTables := by decide
    exact hroot (htables table htable)

/-! ### Its operations -/

section Operations

variable {fmt : UuidFormat} {names : String → Option Uuid}

theorem contents_uuid (u : Uuid) : contents fmt names (uuidJson fmt u) = {ref u} := by
  simp [contents, uuidJson, atomOf, Value.asStr, fmt.parse_display, ref]

theorem contents_string (s : String) : contents fmt names (.string s) = {text s} := rfl

theorem contents_named {name : String} {u : Uuid} (h : names name = some u) :
    contents fmt names ((RowRef.named name).toJson fmt) = {ref u} := by
  simp [contents, RowRef.toJson, atomOf, Value.asStr, h, ref]

/-- What the conditions of the library find. -/
theorem finds_condition {table : String} {condition : Value} {matching : Uuid → Row → Prop}
    (h : Condition fmt table condition matching) : Finds fmt names condition = matching := by
  funext v row
  cases h with
  | every => simp [Finds, Value.asArray, Every]
  | named name =>
    simp [Finds, columnEq, Satisfies, Value.asArray, Value.asStr, contents_string, Named]
  | uuid u =>
    have href : ({ref v} : Set Element) = {ref u} ↔ v = u :=
      ⟨fun heq => ref_inj (heq ▸ rfl), fun heq => heq ▸ rfl⟩
    simp [Finds, columnEq, Satisfies, Value.asArray, Value.asStr, contents_uuid, href]

theorem mutated_addRef (column : String) {name : String} {u : Uuid} (h : names name = some u)
    (row : Row) :
    mutated fmt names row (addRef fmt column (.named name)) = linked column u row := by
  funext c
  by_cases hc : c = column
  case pos => simp [mutated, addRef, Value.asStr, contents_named h, linked, hc]
  case neg =>
    have hne : ¬ column = c := fun heq => hc heq.symm
    simp [mutated, addRef, Value.asStr, linked, hc, hne]

theorem mutated_removeRef (column : String) (u : Uuid) (row : Row) :
    mutated fmt names row (removeRef fmt column u) = unlinked column u row := by
  funext c
  have hset : contents fmt names (.array [.string "set", .array [uuidJson fmt u]]) = {ref u} := by
    ext e
    simp [contents, uuidJson, atomOf, Value.asStr, Value.asArray, fmt.parse_display, ref,
      Set.mem_singleton_iff]
  by_cases hc : c = column
  case pos => simp [mutated, removeRef, Value.asStr, hset, unlinked, hc]
  case neg =>
    have hne : ¬ column = c := fun heq => hc heq.symm
    simp [mutated, removeRef, Value.asStr, unlinked, hc, hne]

theorem written_one (column : String) (v : Value) (row : Row) :
    written fmt names [(column, v)] row = put column (contents fmt names v) row := by
  funext c
  by_cases hc : c = column
  case pos =>
    rw [hc, put_self]
    simp [written]
  case neg =>
    rw [put_other _ _ hc]
    have hne : (c == column) = false := by simpa using hc
    simp [written, List.lookup_cons, hne]

variable (new : Uuid) (db : Rows)

/-- An operation without a row has no value that could be refused. -/
theorem legal_nil (table : String) :
    ¬ ∃ member ∈ ([] : List (String × Value)), ¬ Legal table member.1 member.2 := by
  simp

theorem execute_insertOp (table name : String) (members : List (String × Value)) {db' : Rows} :
    execute fmt names new db (insertOp table members name) = some db' ↔
      (∀ member ∈ members, Legal table member.1 member.2) ∧
        db' = db.insert table new (written fmt names members (defaults table)) := by
  have hrow : rowOf (insertOp table members name) = members := rfl
  have htable : tableOf (insertOp table members name) = some table := rfl
  have hkind : kindOf (insertOp table members name) = some "insert" := rfl
  rw [execute, htable, Option.bind_some, hrow, hkind]
  by_cases hlegal : ∃ member ∈ members, ¬ Legal table member.1 member.2
  case pos =>
    rw [if_pos hlegal]
    rcases hlegal with ⟨member, hmem, hnot⟩
    exact ⟨fun hnone => (by cases hnone), fun h => absurd (h.1 member hmem) hnot⟩
  case neg =>
    rw [if_neg hlegal, if_pos rfl, Option.some.injEq, eq_comm]
    push Not at hlegal
    exact ⟨fun heq => ⟨hlegal, heq⟩, And.right⟩

theorem execute_updateOp (name column : String) (v : Value) {db' : Rows} :
    execute fmt names new db
        (updateOp "Bridge" (columnEq "name" (.string name)) [(column, v)]) = some db' ↔
      Legal "Bridge" column v ∧
        db' = db.change "Bridge" (Named name) (put column (contents fmt names v)) := by
  let op := updateOp "Bridge" (columnEq "name" (.string name)) [(column, v)]
  have hrow : rowOf op = [(column, v)] := rfl
  have htable : tableOf op = some "Bridge" := rfl
  have hkind : kindOf op = some "update" := rfl
  have hwhere : whereOf op = columnEq "name" (.string name) := rfl
  have hput : written fmt names [(column, v)] = put column (contents fmt names v) :=
    funext (written_one column v)
  have hnamed : Condition fmt "Bridge" (columnEq "name" (.string name)) (Named name) :=
    .named name (by decide)
  change execute fmt names new db op = some db' ↔ _
  rw [execute, htable, Option.bind_some, hrow, hkind, hwhere, hput, finds_condition hnamed]
  by_cases hlegal : Legal "Bridge" column v
  case pos => simp [hlegal, eq_comm]
  case neg => simp [hlegal]

theorem execute_mutateOp {table : String} {condition mutation : Value}
    {matching : Uuid → Row → Prop} (h : Condition fmt table condition matching) :
    execute fmt names new db (mutateOp table condition [mutation]) =
      some (db.change table matching fun row => mutated fmt names row mutation) := by
  let op := mutateOp table condition [mutation]
  have hrow : rowOf op = [] := rfl
  have htable : tableOf op = some table := rfl
  have hkind : kindOf op = some "mutate" := rfl
  have hwhere : whereOf op = condition := rfl
  have hmutations : mutationsOf op = [mutation] := rfl
  change execute fmt names new db op = _
  rw [execute, htable, Option.bind_some, hrow, hkind, hwhere, hmutations, finds_condition h,
    if_neg (legal_nil table), if_neg (by decide), if_neg (by decide), if_pos rfl]
  rfl

theorem execute_addRef {table : String} {condition : Value} {matching : Uuid → Row → Prop}
    (column : String) {name : String} {u : Uuid} (h : Condition fmt table condition matching)
    (hname : names name = some u) :
    execute fmt names new db (mutateOp table condition [addRef fmt column (.named name)]) =
      some (db.change table matching (linked column u)) := by
  have hmutated : (fun row => mutated fmt names row (addRef fmt column (.named name))) =
      linked column u := funext (mutated_addRef column hname)
  rw [execute_mutateOp new db h, hmutated]

theorem execute_removeRef {table : String} {condition : Value} {matching : Uuid → Row → Prop}
    (column : String) (u : Uuid) (h : Condition fmt table condition matching) :
    execute fmt names new db (mutateOp table condition [removeRef fmt column u]) =
      some (db.change table matching (unlinked column u)) := by
  have hmutated : (fun row => mutated fmt names row (removeRef fmt column u)) =
      unlinked column u := funext (mutated_removeRef column u)
  rw [execute_mutateOp new db h, hmutated]

theorem execute_deleteRowsOp {table : String} {condition : Value} {matching : Uuid → Row → Prop}
    (h : Condition fmt table condition matching) :
    execute fmt names new db (deleteRowsOp table condition) = some (db.remove table matching) := by
  let op := deleteRowsOp table condition
  have hrow : rowOf op = [] := rfl
  have htable : tableOf op = some table := rfl
  have hkind : kindOf op = some "delete" := rfl
  have hwhere : whereOf op = condition := rfl
  change execute fmt names new db op = _
  rw [execute, htable, Option.bind_some, hrow, hkind, hwhere, finds_condition h,
    if_neg (legal_nil table), if_neg (by decide), if_neg (by decide), if_neg (by decide),
    if_pos rfl]

end Operations

/-! #### Values without temporary names -/

section Plain

variable {fmt : UuidFormat} {names names' : String → Option Uuid}

theorem namedUuids_elements {elements : List Value} (h : namedUuids (.array elements) = []) :
    namedPair elements = none ∧ ∀ v ∈ elements, namedUuids v = [] := by
  have hin : ∀ vs : List Value, namedUuidsIn vs = [] → ∀ v ∈ vs, namedUuids v = [] := by
    intro vs
    induction vs with
    | nil => exact fun _ v hv => absurd hv List.not_mem_nil
    | cons v vs ih =>
      intro hnil
      rw [namedUuidsIn, List.append_eq_nil_iff] at hnil
      exact List.forall_mem_cons.mpr ⟨hnil.1, ih hnil.2⟩
  rw [namedUuids] at h
  split at h
  · cases h
  · next hpair => exact ⟨hpair, hin elements h⟩

theorem atomOf_plain {v : Value} (h : namedUuids v = []) :
    atomOf fmt names v = atomOf fmt names' v := by
  unfold atomOf
  split
  · next tag arg =>
    have hpair := (namedUuids_elements h).1
    split
    · rfl
    · split
      · next htag =>
        rw [namedPair, if_pos htag] at hpair
        rw [hpair]
        rfl
      · rfl
  · rfl

theorem contents_plain {v : Value} (h : namedUuids v = []) :
    contents fmt names v = contents fmt names' v := by
  have hatom : atomOf fmt names v = atomOf fmt names' v := atomOf_plain h
  unfold contents
  split
  · next tag elements =>
    have helements : ∀ x ∈ elements.asArray.getD [], namedUuids x = [] := by
      have hnil := (namedUuids_elements h).2 elements (by simp)
      cases elements with
      | array xs => exact (namedUuids_elements hnil).2
      | _ => exact fun x hx => absurd hx List.not_mem_nil
    split
    · ext e
      constructor
      · rintro ⟨x, hx, rfl⟩
        exact ⟨x, hx, by rw [atomOf_plain (helements x hx)]⟩
      · rintro ⟨x, hx, rfl⟩
        exact ⟨x, hx, by rw [atomOf_plain (helements x hx)]⟩
    · split
      · have hpair : ∀ k x, .array [k, x] ∈ elements.asArray.getD [] →
            namedUuids k = [] ∧ namedUuids x = [] := by
          intro k x hmem
          have hboth := (namedUuids_elements (helements _ hmem)).2
          exact ⟨hboth k (by simp), hboth x (by simp)⟩
        ext e
        constructor
        · rintro ⟨k, x, hmem, rfl⟩
          rcases hpair k x hmem with ⟨hk, hx⟩
          exact ⟨k, x, hmem, by rw [atomOf_plain hk, atomOf_plain hx]⟩
        · rintro ⟨k, x, hmem, rfl⟩
          rcases hpair k x hmem with ⟨hk, hx⟩
          exact ⟨k, x, hmem, by rw [atomOf_plain hk, atomOf_plain hx]⟩
      · rw [hatom]
  · rw [hatom]

end Plain

theorem rowServer_operations (fmt : UuidFormat) : (rowServer fmt).CarriesOut fmt where
  contents_text _ _ s _ _ := contents_string s
  contents_named _ _ _ _ _ _ _ hname := contents_named hname
  contents_plain _ _ _ _ _ hplain := contents_plain hplain
  insert _ new db _ members k table _ _ := execute_insertOp new db table (rowName k) members
  update _ new db _ name v column _ := execute_updateOp new db name column v
  addRef _ new db _ column _ _ _ _ _ hcondition hname :=
    execute_addRef new db column hcondition hname
  removeRef _ new db _ column _ _ u _ hcondition := execute_removeRef new db column u hcondition
  delete _ new db _ _ _ _ hcondition := execute_deleteRowsOp new db hcondition

/-! ### Its transactions -/

theorem executeAll_rowServer (fmt : UuidFormat) (names : String → Option Uuid)
    (newRow : Nat → Uuid) (i : Nat) (db : Rows) (operations : List Value) :
    (rowServer fmt).executeAll names newRow i db operations =
      (started fmt).executeAll names newRow i db operations := by
  induction operations generalizing i db with
  | nil => rfl
  | cons operation operations ih =>
    simp only [executeAll, ih]
    rfl

theorem rowServer_transactions (fmt : UuidFormat) : (rowServer fmt).Commits where
  settle_row rows table u row' hrow' := by
    rcases RefScheme.collect_eq_some.mp hrow' with ⟨hlive, hrow⟩
    exact ⟨row', hrow, hlive, rfl⟩
  settle_live rows table u row hlive hrow :=
    ⟨row, RefScheme.collect_eq_some.mpr ⟨hlive, hrow⟩⟩
  settle_topology rows u row table _ hlive hrow := RefScheme.collect_eq_some.mpr ⟨hlive, hrow⟩
  settle_settle rows := by
    apply RefScheme.collect_eq_self
    intro table u row hrow
    exact RefScheme.live_collect (RefScheme.collect_eq_some.mp hrow).1
  valid_settle _ _ _ _ := trivial
  commit_iff newRow db operations db' _ := by
    rw [performed, executeAll_rowServer, ← performed, rowServer, Option.bind_eq_some_iff]
    constructor
    case mp =>
      rintro ⟨rows, hrows, hcommit⟩
      split at hcommit
      case isTrue hok =>
        exact ⟨hok.1, rows, hrows, hok.2.1, hok.2.2, trivial, Option.some.inj hcommit⟩
      case isFalse => cases hcommit
    case mpr =>
      rintro ⟨hnodup, rows, hrows, hintact, hindexed, -, rfl⟩
      exact ⟨rows, hrows, if_pos ⟨hnodup, hintact, hindexed⟩⟩

/-- **The server does what is documented.** -/
theorem rowServer_documented (fmt : UuidFormat) : (rowServer fmt).Documented fmt where
  schema := rowServer_schema fmt
  operations := rowServer_operations fmt
  transactions := rowServer_transactions fmt

/-! ### One bridge -/

/-- A row that has a name and refers to a row. -/
def bridgeRow (column : String) (u : Uuid) : Row := fun c =>
  if c = "name" then {text "br0"} else if c = column then {ref u} else ∅

/-- An interface, the port on it, the bridge with the port and the switch with the bridge. -/
def bridgeDatabase : Rows :=
  Store.insert (Store.insert (Store.insert (Store.insert (fun _ _ => none)
    "Interface" 4 (bridgeRow "none" 0))
    "Port" 3 (bridgeRow "interfaces" 4))
    "Bridge" 2 (bridgeRow "ports" 3))
    "Open_vSwitch" 1 (bridgeRow "bridges" 2)

/-- The references of such a row are in the one column. -/
theorem mem_refs_bridgeRow {table column : String} {u : Uuid} {target : String × Uuid}
    (h : target ∈ strongRefs.refs table (bridgeRow column u)) :
    strongTable table column = some target.1 ∧ target.2 = u := by
  rcases h with ⟨c, e, hmem, htable, rfl⟩
  by_cases hname : c = "name"
  case pos =>
    rw [bridgeRow, if_pos hname] at hmem
    cases hmem
  case neg =>
    by_cases hcolumn : c = column
    case pos =>
      rw [bridgeRow, if_neg hname, if_pos hcolumn] at hmem
      exact ⟨hcolumn ▸ htable, ref_inj hmem⟩
    case neg =>
      rw [bridgeRow, if_neg hname, if_neg hcolumn] at hmem
      exact absurd hmem (Set.notMem_empty _)

theorem bridgeDatabase_intact : strongRefs.Intact bridgeDatabase := by
  have hempty : strongRefs.Intact fun _ _ => none := fun _ _ _ h => (by cases h)
  have hiface : strongRefs.Intact
      (Store.insert (fun _ _ => none) "Interface" 4 (bridgeRow "none" 0)) := by
    apply hempty.insert rfl
    intro target hmem
    cases (mem_refs_bridgeRow hmem).1
  refine ((hiface.insert rfl ?_).insert rfl ?_).insert rfl ?_
  all_goals
    rintro ⟨table, u⟩ hmem
    rcases mem_refs_bridgeRow hmem with ⟨htable, rfl⟩
    cases htable
    exact ⟨_, rfl⟩

/-- Which rows there are, and that all of them have the one name. -/
theorem bridgeDatabase_row {table : String} {u : Uuid} {row : Row}
    (h : bridgeDatabase table u = some row) :
    (table, u) ∈ [("Open_vSwitch", 1), ("Bridge", 2), ("Port", 3), ("Interface", (4 : Uuid))] ∧
      row "name" = {text "br0"} := by
  rcases Store.insert_eq_some.mp h with ⟨⟨rfl, rfl⟩, rfl⟩ | ⟨-, h⟩
  · exact ⟨by decide, rfl⟩
  rcases Store.insert_eq_some.mp h with ⟨⟨rfl, rfl⟩, rfl⟩ | ⟨-, h⟩
  · exact ⟨by decide, rfl⟩
  rcases Store.insert_eq_some.mp h with ⟨⟨rfl, rfl⟩, rfl⟩ | ⟨-, h⟩
  · exact ⟨by decide, rfl⟩
  rcases Store.insert_eq_some.mp h with ⟨⟨rfl, rfl⟩, rfl⟩ | ⟨-, h⟩
  · exact ⟨by decide, rfl⟩
  cases h

theorem bridgeDatabase_live {table : String} {u : Uuid} {row : Row}
    (h : bridgeDatabase table u = some row) : strongRefs.Live bridgeDatabase table u := by
  have hswitch : strongRefs.Live bridgeDatabase "Open_vSwitch" 1 :=
    .kept (by simp [strongRefs, topologyTables])
  have hbridge : strongRefs.Live bridgeDatabase "Bridge" 2 :=
    .referred hswitch (r := bridgeRow "bridges" 2) rfl ⟨"bridges", ref 2, rfl, rfl, rfl⟩
  have hport : strongRefs.Live bridgeDatabase "Port" 3 :=
    .referred hbridge (r := bridgeRow "ports" 3) rfl ⟨"ports", ref 3, rfl, rfl, rfl⟩
  have hiface : strongRefs.Live bridgeDatabase "Interface" 4 :=
    .referred hport (r := bridgeRow "interfaces" 4) rfl ⟨"interfaces", ref 4, rfl, rfl, rfl⟩
  have hrows := (bridgeDatabase_row h).1
  simp only [List.mem_cons, List.not_mem_nil, or_false, Prod.mk.injEq] at hrows
  rcases hrows with ⟨rfl, rfl⟩ | ⟨rfl, rfl⟩ | ⟨rfl, rfl⟩ | ⟨rfl, rfl⟩
  · exact hswitch
  · exact hbridge
  · exact hport
  · exact hiface

theorem bridgeDatabase_consistent (fmt : UuidFormat) :
    (rowServer fmt).Consistent bridgeDatabase where
  intact := bridgeDatabase_intact
  settled := RefScheme.collect_eq_self fun _ _ _ => bridgeDatabase_live
  indexed := by
    have hkeys : ∀ p ∈ [("Open_vSwitch", 1), ("Bridge", 2), ("Port", 3), ("Interface", (4 : Uuid))],
        ∀ p' ∈ [("Open_vSwitch", 1), ("Bridge", 2), ("Port", 3), ("Interface", (4 : Uuid))],
          p.1 = p'.1 → p.2 = p'.2 := by decide
    intro table _ u u' row row' hrow hrow' _
    exact hkeys _ (bridgeDatabase_row hrow).1 _ (bridgeDatabase_row hrow').1 rfl
  valid := trivial

end Rovs.Ovsdb.Server.RowServer

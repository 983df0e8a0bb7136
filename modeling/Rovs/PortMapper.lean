import Rovs.Bytes
import Rovs.InverseMaps

/-!
# Port names and OpenFlow ports (`rovs-ext/src/util/port_mapper.rs`)

A port mapper keeps a map in each direction.  Both removals look the partner up and remove it
from the other map; `insert` writes the new pair into both maps and leaves the former partners
of the name and of the port where they are.

`states_of_source_bijective_iff` says which runs keep the two maps inverse to each other.
-/

namespace Rovs.Ext

structure PortMapper where
  nameToOfport : HashMap String U32
  ofportToName : HashMap U32 String

namespace PortMapper

def new : PortMapper where
  nameToOfport := ∅
  ofportToName := ∅

def insert (mapper : PortMapper) (name : String) (ofport : U32) : PortMapper where
  ofportToName := mapper.ofportToName.insert ofport name
  nameToOfport := mapper.nameToOfport.insert name ofport

def fromPairs (pairs : List (String × U32)) : PortMapper :=
  pairs.foldl (fun mapper pair => mapper.insert pair.1 pair.2) new

def removeByName (mapper : PortMapper) (name : String) : PortMapper × Option U32 :=
  match mapper.nameToOfport.lookup name with
  | some ofport =>
    ({ nameToOfport := mapper.nameToOfport.erase name
       ofportToName := mapper.ofportToName.erase ofport }, some ofport)
  | none => (mapper, none)

def removeByOfport (mapper : PortMapper) (ofport : U32) : PortMapper × Option String :=
  match mapper.ofportToName.lookup ofport with
  | some name =>
    ({ nameToOfport := mapper.nameToOfport.erase name
       ofportToName := mapper.ofportToName.erase ofport }, some name)
  | none => (mapper, none)

def clear (_mapper : PortMapper) : PortMapper := new

def getOfport (mapper : PortMapper) (name : String) : Option U32 :=
  mapper.nameToOfport.lookup name

def getName (mapper : PortMapper) (ofport : U32) : Option String :=
  mapper.ofportToName.lookup ofport

def containsName (mapper : PortMapper) (name : String) : Bool := (mapper.getOfport name).isSome

def containsOfport (mapper : PortMapper) (ofport : U32) : Bool := (mapper.getName ofport).isSome

def len (mapper : PortMapper) : Nat := mapper.nameToOfport.keys.length

def isEmpty (mapper : PortMapper) : Bool := mapper.nameToOfport.keys.isEmpty

def names (mapper : PortMapper) : List String := mapper.nameToOfport.keys

def ofports (mapper : PortMapper) : List U32 := mapper.ofportToName.keys

/-! ### The two directions -/

/-- A name has a port exactly if the port has the name; then both directions have as many
    entries as `len` says, and a removal by either key removes the pair from both. -/
structure Bijective (mapper : PortMapper) : Prop where
  getOfport_iff : ∀ name ofport,
    mapper.getOfport name = some ofport ↔ mapper.getName ofport = some name
  len_names : mapper.len = mapper.names.length
  len_ofports : mapper.len = mapper.ofports.length
  removeByName : ∀ name ofport, mapper.getOfport name = some ofport →
    (mapper.removeByName name).2 = some ofport ∧
      (mapper.removeByName name).1.containsName name = false ∧
      (mapper.removeByName name).1.containsOfport ofport = false
  removeByOfport : ∀ name ofport, mapper.getName ofport = some name →
    (mapper.removeByOfport ofport).2 = some name ∧
      (mapper.removeByOfport ofport).1.containsName name = false ∧
      (mapper.removeByOfport ofport).1.containsOfport ofport = false

/-- It is enough that the two maps are inverse. -/
theorem bijective_iff (mapper : PortMapper) :
    mapper.Bijective ↔ Inverse mapper.nameToOfport mapper.ofportToName := by
  constructor
  · intro h
    exact h.getOfport_iff
  · intro h
    refine ⟨h, rfl, h.length_eq, ?_, ?_⟩
    · intro name ofport hname
      rw [PortMapper.removeByName, show mapper.nameToOfport.lookup name = some ofport from hname]
      simp [containsName, containsOfport, getOfport, getName]
    · intro name ofport hofport
      rw [PortMapper.removeByOfport,
        show mapper.ofportToName.lookup ofport = some name from hofport]
      simp [containsName, containsOfport, getOfport, getName]

theorem foldl_insert (pairs : List (String × U32)) (mapper : PortMapper) :
    pairs.foldl (fun mapper pair => mapper.insert pair.1 pair.2) mapper =
      { nameToOfport := mapper.nameToOfport.extend pairs
        ofportToName := mapper.ofportToName.extend (pairs.map Prod.swap) } := by
  induction pairs generalizing mapper with
  | nil => rfl
  | cons pair pairs ih =>
    rw [List.foldl_cons, ih]
    rfl

theorem fromPairs_eq (pairs : List (String × U32)) :
    fromPairs pairs = { nameToOfport := HashMap.ofList pairs
                        ofportToName := HashMap.ofList (pairs.map Prod.swap) } :=
  foldl_insert pairs new

theorem bijective_fromPairs_iff (pairs : List (String × U32)) :
    (fromPairs pairs).Bijective ↔ Settled pairs := by
  rw [bijective_iff, fromPairs_eq]
  exact inverse_ofList_iff pairs

/-! ### Runs -/

/-- The calls that change a mapper. -/
inductive Call where
  | insert (name : String) (ofport : U32)
  | removeByName (name : String)
  | removeByOfport (ofport : U32)
  | clear
deriving DecidableEq, Repr

def apply (mapper : PortMapper) : Call → PortMapper
  | .insert name ofport => mapper.insert name ofport
  | .removeByName name => (mapper.removeByName name).1
  | .removeByOfport ofport => (mapper.removeByOfport ofport).1
  | .clear => mapper.clear

/-- The states of a run, the first one included. -/
def states (mapper : PortMapper) : List Call → List PortMapper
  | [] => [mapper]
  | call :: calls => mapper :: (mapper.apply call).states calls

/-- An insert does not take a name or a port away from another partner. -/
def Fits (mapper : PortMapper) : Call → Prop
  | .insert name ofport =>
    (∀ other, mapper.getOfport name = some other → other = ofport) ∧
      ∀ other, mapper.getName ofport = some other → other = name
  | _ => True

/-- Every call of a run fits the state that it meets. -/
def AllFit (mapper : PortMapper) : List Call → Prop
  | [] => True
  | call :: calls => mapper.Fits call ∧ (mapper.apply call).AllFit calls

theorem inverse_removeByName {mapper : PortMapper} (name : String)
    (h : Inverse mapper.nameToOfport mapper.ofportToName) :
    Inverse (mapper.removeByName name).1.nameToOfport
      (mapper.removeByName name).1.ofportToName := by
  rw [removeByName]
  cases hname : mapper.nameToOfport.lookup name with
  | none => exact h
  | some ofport => exact h.erase hname

theorem inverse_removeByOfport {mapper : PortMapper} (ofport : U32)
    (h : Inverse mapper.nameToOfport mapper.ofportToName) :
    Inverse (mapper.removeByOfport ofport).1.nameToOfport
      (mapper.removeByOfport ofport).1.ofportToName := by
  rw [removeByOfport]
  cases hofport : mapper.ofportToName.lookup ofport with
  | none => exact h
  | some name => exact h.erase ((h name ofport).mpr hofport)

/-- A call on a bijective mapper leaves it bijective exactly if the call fits. -/
theorem bijective_apply_iff {mapper : PortMapper} (h : mapper.Bijective) (call : Call) :
    (mapper.apply call).Bijective ↔ mapper.Fits call := by
  have hinverse := mapper.bijective_iff.mp h
  rw [bijective_iff]
  cases call with
  | insert name ofport => exact hinverse.insert_iff name ofport
  | removeByName name => exact iff_of_true (inverse_removeByName name hinverse) trivial
  | removeByOfport ofport => exact iff_of_true (inverse_removeByOfport ofport hinverse) trivial
  | clear => exact iff_of_true Inverse.empty trivial

theorem states_bijective_iff (mapper : PortMapper) (calls : List Call) :
    (∀ state ∈ mapper.states calls, state.Bijective) ↔
      mapper.Bijective ∧ mapper.AllFit calls := by
  induction calls generalizing mapper with
  | nil => simp [states, AllFit]
  | cons call calls ih =>
    rw [states, List.forall_mem_cons, ih, AllFit]
    constructor
    · rintro ⟨hfirst, hnext, hrest⟩
      exact ⟨hfirst, (bijective_apply_iff hfirst call).mp hnext, hrest⟩
    · rintro ⟨hfirst, hfits, hrest⟩
      exact ⟨hfirst, (bijective_apply_iff hfirst call).mpr hfits, hrest⟩

/-- How a mapper is created. -/
inductive Source where
  | new
  | fromPairs (pairs : List (String × U32))

def Source.mapper : Source → PortMapper
  | .new => PortMapper.new
  | .fromPairs pairs => PortMapper.fromPairs pairs

/-- The pairs that a mapper is created from. -/
def Source.pairs : Source → List (String × U32)
  | .new => []
  | .fromPairs pairs => pairs

/-- Every state of a run is bijective exactly if the last pairs that the mapper is created
    from agree and no insert takes a name or a port away from another partner. -/
theorem states_of_source_bijective_iff (source : Source) (calls : List Call) :
    (∀ state ∈ source.mapper.states calls, state.Bijective) ↔
      Settled source.pairs ∧ source.mapper.AllFit calls := by
  have hsource : source.mapper.Bijective ↔ Settled source.pairs := by
    cases source with
    | new => exact bijective_fromPairs_iff []
    | fromPairs pairs => exact bijective_fromPairs_iff pairs
  rw [states_bijective_iff, hsource]

/-- A port that gets a new number keeps its old one in the other direction. -/
theorem renumbered_not_bijective :
    ¬ ∀ state ∈ (Source.mapper .new).states [.insert "eth0" 1, .insert "eth0" 2],
      state.Bijective := by
  intro h
  have hlast := h ((new.insert "eth0" 1).insert "eth0" 2) (by simp [states, apply, Source.mapper])
  have hname : ((new.insert "eth0" 1).insert "eth0" 2).getName 1 = some "eth0" := rfl
  have hofport := (hlast.getOfport_iff "eth0" 1).mpr hname
  cases hofport

end PortMapper

end Rovs.Ext

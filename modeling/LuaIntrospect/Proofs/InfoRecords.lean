import Mathlib
import LuaIntrospect.Proofs.ErrorLocation
import LuaIntrospect.Proofs.TableKeys

/-! The records `debug.getinfo` builds. Main statements: `function_records_match_activations`
and `getinfo_options_union`. -/
namespace LuaIntrospect

namespace InfoOptions

/-- The letters an option string may hold. -/
def letters : List Char := ['f', 'l', 'n', 'S', 't', 'u', 'L', 'r']

/-- The groups asked for by either of two option sets. -/
def union (o o' : InfoOptions) : InfoOptions :=
  { name := o.name || o'.name, source := o.source || o'.source, line := o.line || o'.line,
    tailCall := o.tailCall || o'.tailCall, upvalues := o.upvalues || o'.upvalues,
    func := o.func || o'.func }

/-- The groups the letters of a list ask for. -/
def ofLetters (cs : List Char) : InfoOptions :=
  { name := cs.contains 'n', source := cs.contains 'S', line := cs.contains 'l',
    tailCall := cs.contains 't', upvalues := cs.contains 'u', func := cs.contains 'f' }

/-- Whether the options ask for the group of a letter. -/
def has (o : InfoOptions) : Char → Bool
  | 'n' => o.name
  | 'S' => o.source
  | 'l' => o.line
  | 't' => o.tailCall
  | 'u' => o.upvalues
  | 'f' => o.func
  | _ => false

/-- The fields of a record with the letters of their groups, in the order records list them:
`n` gives `name` and `namewhat`, `S` gives `what`, `source`, `short_src`, `linedefined` and
`lastlinedefined`, `l` gives `currentline`, `t` gives `istailcall`, and `u` gives `nups`,
`nparams` and `isvararg`. -/
def fieldGroups : List (Char × String) :=
  [('n', "name"), ('n', "namewhat"), ('S', "what"), ('S', "source"), ('S', "short_src"),
   ('l', "currentline"), ('S', "linedefined"), ('S', "lastlinedefined"), ('u', "nups"),
   ('u', "nparams"), ('u', "isvararg"), ('t', "istailcall")]

/-- The fields a letter's group puts in a record; `f`, `L` and `r` put none. -/
def letterKeys (c : Char) : List String := (fieldGroups.filter (·.1 == c)).map Prod.snd

@[simp] theorem empty_union (o : InfoOptions) : ({} : InfoOptions).union o = o := by
  simp [union]

theorem union_assoc (o o' o'' : InfoOptions) :
    (o.union o').union o'' = o.union (o'.union o'') := by
  simp [union, Bool.or_assoc]

theorem ofLetters_cons (c : Char) (cs : List Char) :
    ofLetters (c :: cs) = (ofLetters [c]).union (ofLetters cs) := by
  simp [ofLetters, union]

theorem ofLetters_append (cs cs' : List Char) :
    ofLetters (cs ++ cs') = (ofLetters cs).union (ofLetters cs') := by
  simp [ofLetters, union]

theorem has_union (o o' : InfoOptions) (c : Char) : (o.union o').has c = (o.has c || o'.has c) := by
  unfold has
  split <;> rfl

theorem mem_letterKeys {c : Char} {k : String} : k ∈ letterKeys c ↔ (c, k) ∈ fieldGroups := by
  simp [letterKeys]

theorem grouped_letter {c : Char} {k : String} (grouped : k ∈ letterKeys c) :
    c = 'n' ∨ c = 'S' ∨ c = 'l' ∨ c = 't' ∨ c = 'u' := by
  have lettered : c ∈ fieldGroups.map Prod.fst :=
    List.mem_map.mpr ⟨_, mem_letterKeys.mp grouped, rfl⟩
  simp only [fieldGroups, List.map_cons, List.map_nil, List.mem_cons, List.not_mem_nil, or_false]
    at lettered
  rcases lettered with same | same | same | same | same | same | same | same | same | same | same |
    same <;> simp [same]

theorem has_ofLetters {c : Char} {k : String} (grouped : k ∈ letterKeys c) (cs : List Char) :
    (ofLetters cs).has c = cs.contains c := by
  rcases grouped_letter grouped with rfl | rfl | rfl | rfl | rfl <;> rfl

theorem addLetter_eq (o : InfoOptions) (c : Char) :
    addLetter o c = if c ∈ letters then some (o.union (ofLetters [c])) else none := by
  unfold addLetter
  split <;> simp_all [letters, union, ofLetters]

theorem foldlM_addLetter (cs : List Char) (o : InfoOptions) :
    cs.foldlM addLetter o =
      if cs.all (· ∈ letters) then some (o.union (ofLetters cs)) else none := by
  induction cs generalizing o with
  | nil => simp [ofLetters, union]
  | cons c rest ih =>
    rw [List.foldlM_cons, addLetter_eq]
    by_cases known : c ∈ letters
    · -- the letter joins the options and the rest is read onto them
      have first : (c :: rest).all (· ∈ letters) = rest.all (· ∈ letters) := by
        simp only [List.all_cons, decide_eq_true known, Bool.true_and]
      rw [if_pos known, Option.bind_eq_bind, Option.bind_some, ih, union_assoc, ← ofLetters_cons,
        first]
    · simp [known]

theorem parse?_eq (what : String) :
    parse? what = if what.toList.all (· ∈ letters) then some (ofLetters what.toList) else none := by
  rw [parse?, foldlM_addLetter, empty_union]

theorem parse?_eq_none_iff (what : String) :
    parse? what = none ↔ ∃ c ∈ what.toList, c ∉ letters := by
  rw [parse?_eq]
  split <;> simp_all

theorem parse?_of_same_letters {what what' : String}
    (same : ∀ c, c ∈ what.toList ↔ c ∈ what'.toList) : parse? what = parse? what' := by
  have known : what.toList.all (· ∈ letters) = what'.toList.all (· ∈ letters) :=
    Bool.eq_iff_iff.mpr (by simp [List.all_eq_true, same])
  have asked : ofLetters what.toList = ofLetters what'.toList := by
    simp [ofLetters, same]
  rw [parse?_eq, parse?_eq, known, asked]

theorem parse?_append (s t : String) :
    parse? (s ++ t) = (parse? s).bind fun o => (parse? t).map o.union := by
  rw [parse?_eq, parse?_eq, parse?_eq, String.toList_append, ofLetters_append]
  by_cases hs : s.toList.all (· ∈ letters) <;> by_cases ht : t.toList.all (· ∈ letters) <;>
    simp [hs, ht]

end InfoOptions

section DistinctKeys

variable {α κ : Type} [BEq κ] [LawfulBEq κ] (key : α → κ) (k : κ)

theorem find?_key_eq_some_iff {e : α} :
    ∀ l : List α, (l.map key).Nodup → (l.find? (key · == k) = some e ↔ e ∈ l ∧ key e = k)
  | [], _ => by simp
  | a :: rest, distinct => by
    rw [List.map_cons, List.nodup_cons] at distinct
    rw [List.find?_cons]
    by_cases same : key a = k
    · -- the first entry has the key, so no other entry has it
      simp only [same, beq_self_eq_true, Option.some.injEq, List.mem_cons]
      constructor
      · rintro rfl
        exact ⟨.inl rfl, same⟩
      · rintro ⟨rfl | later, hit⟩
        · rfl
        · exact absurd (same ▸ hit ▸ List.mem_map_of_mem later) distinct.1
    · have other : (key a == k) = false := by simpa using same
      rw [other, find?_key_eq_some_iff rest distinct.2, List.mem_cons]
      constructor
      · exact fun ⟨later, hit⟩ => ⟨.inr later, hit⟩
      · rintro ⟨rfl | later, hit⟩
        · exact absurd hit same
        · exact ⟨later, hit⟩

theorem find?_filter_key (P : α → Bool) :
    ∀ l : List α, (l.map key).Nodup →
      (l.filter P).find? (key · == k) = (l.find? (key · == k)).filter P
  | [], _ => rfl
  | a :: rest, distinct => by
    rw [List.map_cons, List.nodup_cons] at distinct
    have later := find?_filter_key P rest distinct.2
    by_cases same : key a = k
    · -- no later entry has the key
      have unseen : rest.find? (key · == k) = none := by
        rw [List.find?_eq_none]
        intro q member hit
        have keyed : key q = k := by simpa using hit
        exact distinct.1 (same ▸ keyed ▸ List.mem_map_of_mem member)
      cases pass : P a <;> simp [same, pass, later, unseen, Option.filter]
    · have other : (key a == k) = false := by simpa using same
      cases pass : P a <;> simp [other, pass, later]

end DistinctKeys

namespace Table

theorem getField_foldl_setField {β : Type} (g : β → Value) (t : Table) (k : String) :
    ∀ l : List (String × β), (l.map Prod.fst).Nodup →
      (l.foldl (fun t p => t.setField p.1 (g p.2)) t).getField k =
        ((l.find? (·.1 == k)).map (g ·.2)).getD (t.getField k)
  | [], _ => rfl
  | p :: rest, distinct => by
    rw [List.map_cons, List.nodup_cons] at distinct
    rw [List.foldl_cons, getField_foldl_setField g _ k rest distinct.2, List.find?_cons]
    by_cases same : p.1 = k
    · -- the name is written once, here
      have unwritten : rest.find? (·.1 == k) = none := by
        rw [List.find?_eq_none]
        intro q member hit
        exact distinct.1 (same ▸ List.mem_map.mpr ⟨q, member, by simpa using hit⟩)
      simp [same, unwritten, getField, setField, get_set]
    · have other : (p.1 == k) = false := by simpa using same
      rw [other]
      cases rest.find? (·.1 == k) <;> simp [same, getField, setField, get_set]

theorem get_foldl_setField {β : Type} (g : β → Value) (key : TableKey)
    (unnamed : ∀ k, key ≠ .str k) :
    ∀ (l : List (String × β)) (t : Table),
      (l.foldl (fun t p => t.setField p.1 (g p.2)) t).get key = t.get key
  | [], _ => rfl
  | p :: rest, t => by
    rw [List.foldl_cons, get_foldl_setField g key unnamed rest, setField, get_set,
      if_neg (fun same => unnamed p.1 same.symm)]

end Table

namespace DebugInfo

@[simp] theorem Field.isNil_toValue (x : Field) : x.toValue.isNil = false := by
  cases x <;> rfl

@[simp] theorem isNil_nil : Value.nil.isNil = true := rfl

theorem get_toTable_unnamed (i : DebugInfo) {key : TableKey} (unnamed : ∀ k, key ≠ .str k) :
    i.toTable.get key = .nil :=
  Table.get_foldl_setField _ key unnamed _ _

/-- What a record describes: the name it is known by, what runs, its chunk, and its current
line. -/
structure Subject where
  name : Option String
  what : String
  chunk : ChunkSource
  line : Int

namespace Subject

/-- The record of a subject with the field groups the options ask for. -/
def record (d : Subject) (o : InfoOptions) : DebugInfo where
  name := if o.name then d.name else none
  namewhat := if o.name then some (if d.name.isSome then "global" else "") else none
  what := if o.source then some d.what else none
  source := if o.source then some d.chunk.source else none
  shortSrc := if o.source then some d.chunk.shortSrc else none
  currentline := if o.line then some d.line else none
  linedefined := if o.source then some untrackedLine else none
  lastlinedefined := if o.source then some untrackedLine else none
  nups := if o.upvalues then some 0 else none
  nparams := if o.upvalues then some 0 else none
  isvararg := if o.upvalues then some true else none
  istailcall := if o.tailCall then some false else none

/-- A frame on the stack: its name, its kind, its chunk and its line. -/
def ofFrame (f : Frame) (fallback : Option String) : Subject :=
  ⟨f.name, whatOfKind f.kind, ChunkSource.forFrame f fallback,
    f.line.elim untrackedLine fun l => (l.toNat : Int)⟩

/-- A function value: no name, what it runs, its chunk, and no line. -/
def ofSignature (s : Signature) (fallback : Option String) : Subject :=
  ⟨none, whatOfSignature s, ChunkSource.forSignature s fallback, untrackedLine⟩

/-- Host code. -/
def host : Subject := ⟨none, "C", ChunkSource.native, untrackedLine⟩

/-- Every field a subject can show, in the order records list them, each with the letter of its
group; the name only when one is known. -/
def entries (d : Subject) : List (Char × String × Field) :=
  (d.name.map fun n => ('n', "name", Field.text n)).toList ++
    [('n', "namewhat", Field.text (if d.name.isSome then "global" else "")),
     ('S', "what", Field.text d.what), ('S', "source", Field.text d.chunk.source),
     ('S', "short_src", Field.text d.chunk.shortSrc), ('l', "currentline", Field.number d.line),
     ('S', "linedefined", Field.number untrackedLine),
     ('S', "lastlinedefined", Field.number untrackedLine), ('u', "nups", Field.number 0),
     ('u', "nparams", Field.number 0), ('u', "isvararg", Field.flag true),
     ('t', "istailcall", Field.flag false)]

theorem entries_groups (d : Subject) :
    d.entries.map (fun e => (e.1, e.2.1)) =
      InfoOptions.fieldGroups.filter fun p => p.2 != "name" || d.name.isSome := by
  rcases d with ⟨_ | name, what, chunk, line⟩ <;> rfl

theorem entries_keys_nodup (d : Subject) : (d.entries.map fun e => e.2.1).Nodup := by
  have distinct : (InfoOptions.fieldGroups.map Prod.snd).Nodup := by
    simp [InfoOptions.fieldGroups]
  have keys : d.entries.map (fun e => e.2.1) =
      (d.entries.map fun e => (e.1, e.2.1)).map Prod.snd := by
    simp
  rw [keys, entries_groups]
  exact distinct.sublist ((List.filter_sublist).map _)

theorem mem_entries_iff (d : Subject) (c : Char) (k : String) :
    (∃ x, (c, k, x) ∈ d.entries) ↔ k ∈ InfoOptions.letterKeys c ∧ (k = "name" → d.name.isSome) := by
  have shown : (∃ x, (c, k, x) ∈ d.entries) ↔ (c, k) ∈ d.entries.map fun e => (e.1, e.2.1) := by
    simp
  rw [shown, entries_groups, List.mem_filter, InfoOptions.mem_letterKeys]
  by_cases named : k = "name" <;> simp [named]

theorem filterMap_guarded {α : Type} (p : Char → Bool) (l : List (Char × String × α)) :
    (l.map fun e => (e.2.1, if p e.1 then some e.2.2 else none)).filterMap
        (fun kv => kv.2.map fun x => (kv.1, x)) = (l.filter fun e => p e.1).map Prod.snd := by
  induction l with
  | nil => rfl
  | cons e rest ih => by_cases kept : p e.1 <;> simp [kept, ih]

theorem filterMap_wrapped {β : Type} (wrap : β → Field) (l : List (String × Option β)) :
    l.filterMap (fun x => x.2.map fun s => (x.1, wrap s)) =
      (l.map fun x => (x.1, x.2.map wrap)).filterMap (fun kv => kv.2.map fun x => (kv.1, x)) := by
  rw [List.filterMap_map]
  congr 1
  funext x
  simp [Option.map_map, Function.comp_def]

theorem fields_record (d : Subject) (o : InfoOptions) :
    (d.record o).fields = (d.entries.filter fun e => o.has e.1).map Prod.snd := by
  -- every field of the record is its entry, kept when the entry's group is asked for
  have guarded : (d.record o).fields = (d.entries.map fun e =>
      (e.2.1, if o.has e.1 then some e.2.2 else none)).filterMap
        (fun kv => kv.2.map fun x => (kv.1, x)) := by
    simp only [fields]
    rw [filterMap_wrapped Field.text, filterMap_wrapped Field.number, filterMap_wrapped Field.flag,
      ← List.filterMap_append, ← List.filterMap_append]
    rcases d with ⟨_ | name, what, chunk, line⟩ <;>
      simp [record, entries, InfoOptions.has, apply_ite (Option.map _)]
  rw [guarded, filterMap_guarded]

theorem getField_toTable (d : Subject) (o : InfoOptions) (k : String) :
    (d.record o).toTable.getField k =
      (((d.entries.find? (·.2.1 == k)).filter (o.has ·.1)).map (·.2.2.toValue)).getD .nil := by
  have distinct : (((d.entries.filter fun e => o.has e.1).map Prod.snd).map Prod.fst).Nodup := by
    rw [List.map_map]
    exact (d.entries_keys_nodup).sublist ((List.filter_sublist).map _)
  rw [toTable, fields_record, Table.getField_foldl_setField _ _ _ _ distinct, List.find?_map,
    Option.map_map]
  exact congrArg (fun x => (Option.map _ x).getD _)
    (find?_filter_key (fun e : Char × String × Field => e.2.1) k _ _ d.entries_keys_nodup)

theorem getField_toTable_union (d : Subject) (o o' : InfoOptions) (k : String) :
    (d.record (o.union o')).toTable.getField k =
      if ((d.record o).toTable.getField k).isNil then (d.record o').toTable.getField k
      else (d.record o).toTable.getField k := by
  simp only [getField_toTable, InfoOptions.has_union]
  cases d.entries.find? (·.2.1 == k) with
  | none => rfl
  | some e =>
    cases first : o.has e.1 <;> cases second : o'.has e.1 <;>
      simp [Option.filter, first, second]

theorem getField_toTable_present (d : Subject) (o : InfoOptions) (k : String) :
    ((d.record o).toTable.getField k).isNil = false ↔ ∃ c x, (c, k, x) ∈ d.entries ∧ o.has c := by
  rw [getField_toTable]
  cases found : d.entries.find? (·.2.1 == k) with
  | none =>
    simp only [Option.filter_none, Option.map_none, Option.getD_none, isNil_nil, Bool.true_eq_false,
      false_iff, not_exists, not_and]
    intro c x member _
    exact List.find?_eq_none.mp found _ member (by simp)
  | some e =>
    have unique : ∀ e', d.entries.find? (·.2.1 == k) = some e' ↔ e' ∈ d.entries ∧ e'.2.1 = k :=
      fun _ => find?_key_eq_some_iff (fun e : Char × String × Field => e.2.1) k _ d.entries_keys_nodup
    obtain ⟨member, keyed⟩ := (unique _).mp found
    obtain ⟨c, k', x⟩ := e
    obtain rfl : k' = k := keyed
    constructor
    · intro present
      have asked : o.has c := by
        cases asked : o.has c <;> simp_all [Option.filter]
      exact ⟨c, x, member, asked⟩
    · rintro ⟨c', x', member', asked⟩
      obtain ⟨⟩ := Option.some.inj ((unique _).mpr ⟨member', rfl⟩ ▸ found)
      simp [Option.filter, asked]

theorem getField_toTable_isNil (d : Subject) (o : InfoOptions) (k : String) :
    ((d.record o).toTable.getField k).isNil = false ↔
      ∃ c, o.has c ∧ k ∈ InfoOptions.letterKeys c ∧ (k = "name" → d.name.isSome) := by
  rw [getField_toTable_present]
  constructor
  · rintro ⟨c, x, member, asked⟩
    exact ⟨c, asked, (d.mem_entries_iff c k).mp ⟨x, member⟩⟩
  · rintro ⟨c, asked, grouped⟩
    obtain ⟨x, member⟩ := (d.mem_entries_iff c k).mpr grouped
    exact ⟨c, x, member, asked⟩

theorem getField_toTable_letters (d : Subject) {what : String} {o : InfoOptions}
    (parsed : InfoOptions.parse? what = some o) (k : String) :
    ((d.record o).toTable.getField k).isNil = false ↔
      ∃ c ∈ what.toList, k ∈ InfoOptions.letterKeys c ∧ (k = "name" → d.name.isSome) := by
  have read : o = InfoOptions.ofLetters what.toList := by
    rw [InfoOptions.parse?_eq] at parsed
    split at parsed
    · exact (Option.some.inj parsed).symm
    · cases parsed
  subst read
  rw [getField_toTable_isNil]
  constructor
  · rintro ⟨c, asked, grouped, named⟩
    rw [InfoOptions.has_ofLetters grouped, List.contains_iff_mem] at asked
    exact ⟨c, asked, grouped, named⟩
  · rintro ⟨c, present, grouped, named⟩
    refine ⟨c, ?_, grouped, named⟩
    rw [InfoOptions.has_ofLetters grouped, List.contains_iff_mem]
    exact present

end Subject

open Subject

theorem ite_withName (b : Bool) (i : DebugInfo) (n : Option String) :
    (if b then i.withName n else i) =
      { i with name := if b then n else i.name
               namewhat := if b then some (if n.isSome then "global" else "") else i.namewhat } := by
  cases b <;> rfl

theorem ite_withSource (b : Bool) (i : DebugInfo) (what : String) (chunk : ChunkSource) :
    (if b then i.withSource what chunk else i) =
      { i with what := if b then some what else i.what
               source := if b then some chunk.source else i.source
               shortSrc := if b then some chunk.shortSrc else i.shortSrc
               linedefined := if b then some untrackedLine else i.linedefined
               lastlinedefined := if b then some untrackedLine else i.lastlinedefined } := by
  cases b <;> rfl

theorem ite_currentline (b : Bool) (i : DebugInfo) (line : Int) :
    (if b then { i with currentline := some line } else i) =
      { i with currentline := if b then some line else i.currentline } := by
  cases b <;> rfl

theorem withConstants_eq (i : DebugInfo) (o : InfoOptions) :
    i.withConstants o =
      { i with istailcall := if o.tailCall then some false else i.istailcall
               nups := if o.upvalues then some 0 else i.nups
               nparams := if o.upvalues then some 0 else i.nparams
               isvararg := if o.upvalues then some true else i.isvararg } := by
  unfold withConstants
  cases o.tailCall <;> cases o.upvalues <;> rfl

theorem forFrame_eq_record (f : Frame) (fallback : Option String) (o : InfoOptions) :
    forFrame f fallback o = (ofFrame f fallback).record o := by
  -- the current line is read by a match of its own
  rcases f with ⟨name, kind, _ | line, scriptPath, span, locals, upvalues⟩ <;>
    · unfold forFrame
      simp only [ite_currentline]
      simp only [ite_withName, ite_withSource, withConstants_eq]
      rfl

theorem forFunction_eq_record (s : Signature) (fallback : Option String) (o : InfoOptions) :
    forFunction s fallback o = (ofSignature s fallback).record o := by
  unfold forFunction
  simp only [ite_currentline]
  simp only [ite_withName, ite_withSource, withConstants_eq]
  rfl

theorem nativeDefaults_eq_record (o : InfoOptions) : nativeDefaults o = host.record o := by
  unfold nativeDefaults
  simp only [ite_currentline]
  simp only [ite_withName, ite_withSource, withConstants_eq]
  rfl

theorem whatOfKind_forFunction (s : Signature) :
    whatOfKind (Frame.forFunction s).kind = whatOfSignature s := by
  cases s with
  | native name => rfl
  | guest name chunk span isMain upvalues => cases isMain <;> rfl

theorem ofSignature_eq_activation {s : Signature} {frame : Frame}
    (running : (Frame.forFunction s).Edited frame) (fallback : Option String) :
    ofSignature s fallback =
      { ofFrame frame fallback with name := none, line := untrackedLine } := by
  have chunk : ChunkSource.forSignature s fallback = ChunkSource.forFrame frame fallback := by
    rw [ChunkSource.forFrame_of_edited running, ChunkSource.forFrame_forFunction]
  have what : whatOfSignature s = whatOfKind frame.kind := by
    rw [running.kind, whatOfKind_forFunction]
  simp [ofSignature, ofFrame, chunk, what]

theorem record_anonymous (d : Subject) (o : InfoOptions) :
    ({ d with name := none, line := untrackedLine } : Subject).record o =
      { d.record o with
        name := none
        namewhat := if o.name then some "" else none
        currentline := if o.line then some untrackedLine else none } := by
  obtain ⟨n, src, l, t, u, fn⟩ := o
  cases n <;> cases l <;> rfl

theorem record_source (d d' : Subject) (what : d.what = d'.what) (chunk : d.chunk = d'.chunk) :
    d.record { source := true } = d'.record { source := true } := by
  simp [record, what, chunk]

end DebugInfo

namespace Exec

open Library DebugInfo

/-- What `getinfo` describes: a function value, the frame a level names or the newest frame when
it names none, or host code. -/
def infoSubject (m : Machine) (target : Value) : Subject :=
  match target, target.asInteger? with
  | .func f, _ => .ofSignature (m.signature f) m.stack.scriptPath
  | _, some level => (((frameForLevel m.stack level).or m.stack.top?).map
      fun frame => .ofFrame frame m.stack.scriptPath).getD .host
  | _, none => .host

theorem skipThread_targeted {pre : List Value} {target : Value}
    (targeted : skipThread (pre ++ [target]) = [target]) (rest : List Value) :
    skipThread (pre ++ target :: rest) = target :: rest := by
  rcases pre with _ | ⟨a, _ | ⟨b, more⟩⟩
  · cases target <;> simp_all [skipThread]
  · cases a <;> simp_all [skipThread]
  · cases a <;> simp [skipThread] at targeted

theorem infoSubject_func (m : Machine) (f : Callable) :
    infoSubject m (.func f) = .ofSignature (m.signature f) m.stack.scriptPath := rfl

theorem infoSubject_level (m : Machine) (level : Value) {L : Int64}
    (isLevel : level.asInteger? = some L) :
    infoSubject m level =
      (((frameForLevel m.stack L).or m.stack.top?).map
        fun frame => .ofFrame frame m.stack.scriptPath).getD .host := by
  unfold infoSubject
  split
  · simp [Value.asInteger?] at isLevel
  · rename_i level' given
    rw [isLevel] at given
    cases given
    rfl
  · rename_i absent
    rw [isLevel] at absent
    cases absent

theorem infoSubject_other (m : Machine) (target : Value) (unnamed : ∀ f, target ≠ .func f)
    (noLevel : target.asInteger? = none) : infoSubject m target = .host := by
  unfold infoSubject
  split
  · exact absurd rfl (unnamed _)
  · rename_i level' given
    rw [noLevel] at given
    cases given
  · rfl

theorem infoTable_eq (i : DebugInfo) (m : Machine) :
    infoTable i m = .ok (.table ⟨m.tables.size⟩) (m.allocTable i.toTable).2 := rfl

theorem getinfo_what (m : Machine) {pre : List Value} {target : Value}
    (targeted : skipThread (pre ++ [target]) = [target]) (what : String) (rest : List Value) :
    callBuiltin .getinfo (pre ++ target :: .str what :: rest) m =
      (InfoOptions.parse? what).elim (.error (.error (.badArgument 2 "getinfo" "invalid option")) m)
        fun o => .ok [.table ⟨m.tables.size⟩]
          (m.allocTable ((infoSubject m target).record o).toTable).2 := by
  simp only [callBuiltin, getinfo, skipThread_targeted targeted, List.head?_cons]
  rcases Option.eq_none_or_eq_some (InfoOptions.parse? what) with refused | ⟨o, parsed⟩
  · simp [refused, bind, EStateM.bind, pure, EStateM.pure, fail, throw, throwThe,
      MonadExceptOf.throw, EStateM.throw]
  simp [parsed, bind, EStateM.bind, pure, EStateM.pure, get, getThe, MonadStateOf.get, EStateM.get,
    infoTable_eq]
  -- a function is described as a function, a level as the frame it names, anything else as host
  -- code
  cases target
  case func f =>
    dsimp only
    rw [infoSubject_func, forFunction_eq_record]
  case int L =>
    dsimp only
    rw [infoSubject_level m (.int L) rfl, show (Value.int L).asInteger? = some L from rfl]
    rcases Option.eq_none_or_eq_some ((frameForLevel m.stack L).or m.stack.top?) with
      unnamed | ⟨frame, named⟩ <;>
      simp [*, forFrame_eq_record, nativeDefaults_eq_record]
  case num x =>
    dsimp only
    rcases Option.eq_none_or_eq_some (Decimal.integralInt64? x) with noLevel | ⟨L, level⟩
    · rw [infoSubject_other m (.num x) (by simp) noLevel,
        show (Value.num x).asInteger? = none from noLevel, nativeDefaults_eq_record]
    · rw [infoSubject_level m (.num x) level, show (Value.num x).asInteger? = some L from level]
      rcases Option.eq_none_or_eq_some ((frameForLevel m.stack L).or m.stack.top?) with
        unnamed | ⟨frame, named⟩ <;>
        simp [*, forFrame_eq_record, nativeDefaults_eq_record]
  all_goals
    rw [infoSubject_other m _ (by simp) rfl]
    simp [Value.asInteger?, nativeDefaults_eq_record]

end Exec

open DebugInfo DebugInfo.Subject Exec Library in
/-- A function's record agrees with the record of every running call of it, that is with the
frame a call pushes, edited since at most in place, on every field but the name and the current
line: the record of the function has no name and no line. The two agree on the current line too
while the frame has recorded none. So `getinfo` of a function with `S` and `getinfo` of the level
of a running call of it with `S` give the same table. -/
theorem function_records_match_activations :
    (∀ (s : Signature) (frame : Frame), (Frame.forFunction s).Edited frame →
      ∀ (fallback : Option String) (o : InfoOptions),
        forFunction s fallback o =
          { forFrame frame fallback o with
            name := none
            namewhat := if o.name then some "" else none
            currentline := if o.line then some untrackedLine else none } ∧
        (frame.line = none →
          (forFrame frame fallback o).currentline = (forFunction s fallback o).currentline)) ∧
    (∀ (m : Machine) (c : Callable) (level : Value) (L : Int64) (frame : Frame),
      level.asInteger? = some L → frameForLevel m.stack L = some frame →
      (Frame.forFunction (m.signature c)).Edited frame →
        callBuiltin .getinfo [.func c, .str "S"] m = callBuiltin .getinfo [level, .str "S"] m) := by
  refine ⟨fun s frame running fallback o => ⟨?_, fun unrecorded => ?_⟩, ?_⟩
  · rw [forFunction_eq_record, forFrame_eq_record, ofSignature_eq_activation running,
      record_anonymous]
  · rw [forFunction_eq_record, forFrame_eq_record]
    simp [record, ofFrame, ofSignature, unrecorded]
  · intro m c level L frame isLevel named running
    have bare : ∀ v : Value, v.asInteger?.isSome → skipThread ([] ++ [v]) = [v] := by
      intro v number
      cases v <;> simp_all [skipThread, Value.asInteger?]
    have source : InfoOptions.parse? "S" = some { source := true } := by decide
    have level_subject : infoSubject m level = ofFrame frame m.stack.scriptPath := by
      simp [infoSubject_level m level isLevel, named]
    have described := ofSignature_eq_activation running m.stack.scriptPath
    have what : (ofSignature (m.signature c) m.stack.scriptPath).what =
        (ofFrame frame m.stack.scriptPath).what := by
      rw [described]
    have chunk : (ofSignature (m.signature c) m.stack.scriptPath).chunk =
        (ofFrame frame m.stack.scriptPath).chunk := by
      rw [described]
    rw [show [Value.func c, .str "S"] = [] ++ .func c :: .str "S" :: [] from rfl,
      show [level, .str "S"] = [] ++ level :: .str "S" :: [] from rfl,
      getinfo_what m rfl, getinfo_what m (bare level (by simp [isLevel])), source, infoSubject_func,
      level_subject, Option.elim_some, Option.elim_some, record_source _ _ what chunk]

/-- A guest function of the file chunk `@game.lua`, named `update`. -/
def fileFunction : Signature := .guest (some "update") (some "@game.lua") none false none

/-- A machine running `fileFunction`, at line 21. -/
def runningFileFunction : Machine :=
  { scripts := #[⟨"update", fileFunction, []⟩],
    stack := { frames := #[(Frame.forFunction fileFunction).setLine 21] } }

/-- A running call at line 21 shows its name and line, the function neither, and both show the
same source. -/
theorem file_function_matches_its_call :
    ((Frame.forFunction fileFunction).Edited ((Frame.forFunction fileFunction).setLine 21) ∧
      DebugInfo.forFunction fileFunction none { name := true, source := true, line := true } =
        { DebugInfo.forFrame ((Frame.forFunction fileFunction).setLine 21) none
            { name := true, source := true, line := true } with
          name := none
          namewhat := some ""
          currentline := some untrackedLine }) ∧
    ((Value.int 0).asInteger? = some 0 ∧
      Library.frameForLevel runningFileFunction.stack 0 =
        some ((Frame.forFunction fileFunction).setLine 21) ∧
      (Frame.forFunction (runningFileFunction.signature (.script 0))).Edited
        ((Frame.forFunction fileFunction).setLine 21) ∧
      Exec.callBuiltin .getinfo [.func (.script 0), .str "S"] runningFileFunction =
        Exec.callBuiltin .getinfo [.int 0, .str "S"] runningFileFunction) := by
  have running := Frame.Edited.setLine (Frame.forFunction fileFunction) 21
  have level : Library.frameForLevel runningFileFunction.stack 0 =
      some ((Frame.forFunction fileFunction).setLine 21) := by
    rfl
  exact ⟨⟨running, (function_records_match_activations.1 _ _ running none _).1⟩,
    ⟨rfl, level, running, function_records_match_activations.2 _ _ _ 0 _ rfl level running⟩⟩

open Exec Library DebugInfo DebugInfo.Subject in
/-- `getinfo` with a concatenation of two option strings. It is refused exactly when some letter
is no option. Otherwise its table is the union of the tables for each string: a field of the
first, else the field of the second. The order and repetition of letters do not matter, and the
table holds exactly the fields of the groups of the letters present, the name only when one is
known: `n` gives `name` and `namewhat`, `S` gives `what`, `source`, `short_src`, `linedefined`
and `lastlinedefined`, `l` gives `currentline`, `t` gives `istailcall`, `u` gives `nups`,
`nparams` and `isvararg`, and `f`, `L` and `r` give none. -/
theorem getinfo_options_union (m : Machine) (pre : List Value) (target : Value) (rest : List Value)
    (targeted : skipThread (pre ++ [target]) = [target]) (s t : String) :
    (InfoOptions.parse? (s ++ t) = none ↔ ∃ c ∈ (s ++ t).toList, c ∉ InfoOptions.letters) ∧
    (InfoOptions.parse? (s ++ t) = none →
      callBuiltin .getinfo (pre ++ target :: .str (s ++ t) :: rest) m =
        .error (.error (.badArgument 2 "getinfo" "invalid option")) m) ∧
    (InfoOptions.parse? (s ++ t) ≠ none → ∃ both first second : Table,
      callBuiltin .getinfo (pre ++ target :: .str (s ++ t) :: rest) m =
        .ok [.table ⟨m.tables.size⟩] (m.allocTable both).2 ∧
      callBuiltin .getinfo (pre ++ target :: .str s :: rest) m =
        .ok [.table ⟨m.tables.size⟩] (m.allocTable first).2 ∧
      callBuiltin .getinfo (pre ++ target :: .str t :: rest) m =
        .ok [.table ⟨m.tables.size⟩] (m.allocTable second).2 ∧
      (∀ key, both.get key = if (first.get key).isNil then second.get key else first.get key) ∧
      (∀ key, (both.get key).isNil = false ↔ ∃ k, key = .str k ∧ ∃ c ∈ (s ++ t).toList,
        k ∈ InfoOptions.letterKeys c ∧ (k = "name" → (infoSubject m target).name.isSome)) ∧
      (∀ what, (∀ c, c ∈ what.toList ↔ c ∈ (s ++ t).toList) →
        callBuiltin .getinfo (pre ++ target :: .str what :: rest) m =
          callBuiltin .getinfo (pre ++ target :: .str (s ++ t) :: rest) m)) := by
  refine ⟨InfoOptions.parse?_eq_none_iff _, fun refused => ?_, fun accepted => ?_⟩
  · rw [getinfo_what m targeted, refused]
    rfl
  obtain ⟨o, parsed⟩ := Option.ne_none_iff_exists'.mp accepted
  obtain ⟨os, parsedS, ot, parsedT, rfl⟩ : ∃ os, InfoOptions.parse? s = some os ∧
      ∃ ot, InfoOptions.parse? t = some ot ∧ o = os.union ot := by
    rw [InfoOptions.parse?_append] at parsed
    cases hs : InfoOptions.parse? s <;> cases ht : InfoOptions.parse? t <;> simp_all
  set d := infoSubject m target
  refine ⟨(d.record (os.union ot)).toTable, (d.record os).toTable, (d.record ot).toTable,
    ?_, ?_, ?_, fun key => ?_, fun key => ?_, fun what same => ?_⟩
  · rw [getinfo_what m targeted, parsed]
    rfl
  · rw [getinfo_what m targeted, parsedS]
    rfl
  · rw [getinfo_what m targeted, parsedT]
    rfl
  · cases key with
    | str k => exact getField_toTable_union d os ot k
    | bool b => simp [get_toTable_unnamed]
    | int i => simp [get_toTable_unnamed]
  · cases key with
    | str k => simpa [Table.getField] using getField_toTable_letters d parsed k
    | bool b => simp [get_toTable_unnamed]
    | int i => simp [get_toTable_unnamed]
  · rw [getinfo_what m targeted, getinfo_what m targeted, InfoOptions.parse?_of_same_letters same]

/-- Host code asked for `nS` and then `lS` at level 0 of an empty stack. -/
theorem host_options_union :
    Library.skipThread [Value.int 0] = [Value.int 0] ∧
    (InfoOptions.parse? ("nS" ++ "lS") = none ↔
      ∃ c ∈ ("nS" ++ "lS").toList, c ∉ InfoOptions.letters) ∧
    (InfoOptions.parse? ("nS" ++ "lS") = none →
      Exec.callBuiltin .getinfo [Value.int 0, .str ("nS" ++ "lS")] ({} : Machine) =
        .error (.error (.badArgument 2 "getinfo" "invalid option")) ({} : Machine)) ∧
    (InfoOptions.parse? ("nS" ++ "lS") ≠ none → ∃ both first second : Table,
      Exec.callBuiltin .getinfo [Value.int 0, .str ("nS" ++ "lS")] ({} : Machine) =
        .ok [.table ⟨0⟩] (({} : Machine).allocTable both).2 ∧
      Exec.callBuiltin .getinfo [Value.int 0, .str "nS"] ({} : Machine) =
        .ok [.table ⟨0⟩] (({} : Machine).allocTable first).2 ∧
      Exec.callBuiltin .getinfo [Value.int 0, .str "lS"] ({} : Machine) =
        .ok [.table ⟨0⟩] (({} : Machine).allocTable second).2 ∧
      (∀ key, both.get key = if (first.get key).isNil then second.get key else first.get key) ∧
      (∀ key, (both.get key).isNil = false ↔ ∃ k, key = .str k ∧ ∃ c ∈ ("nS" ++ "lS").toList,
        k ∈ InfoOptions.letterKeys c ∧
          (k = "name" → (Exec.infoSubject ({} : Machine) (.int 0)).name.isSome)) ∧
      (∀ what, (∀ c, c ∈ what.toList ↔ c ∈ ("nS" ++ "lS").toList) →
        Exec.callBuiltin .getinfo [Value.int 0, .str what] ({} : Machine) =
          Exec.callBuiltin .getinfo [Value.int 0, .str ("nS" ++ "lS")] ({} : Machine))) :=
  ⟨rfl, getinfo_options_union ({} : Machine) [] (.int 0) [] rfl "nS" "lS"⟩

end LuaIntrospect

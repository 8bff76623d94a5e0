import Mathlib.Data.List.Nodup
import SpriteStage.Toml.Document
/-!
At the top of a document no name is defined twice. An entry is only ever added under a name that the
table does not have, or put in the place of the one that has it; and a table that moves to the end is
taken away first. So every pair and every section keeps the names of the root apart.
-/

namespace SpriteStage.Toml

theorem kept_of_foldlM {α β : Type} {kept : β → Prop} {step : β → α → Option β}
    (hstep : ∀ {b a b'}, kept b → step b a = some b' → kept b') {xs : List α} {b b' : β}
    (hb : kept b) (h : xs.foldlM step b = some b') : kept b' := by
  induction xs generalizing b with
  | nil =>
    obtain rfl : b = b' := Option.some.inj h
    exact hb
  | cons x xs ih =>
    rw [List.foldlM_cons] at h
    obtain ⟨c, hc, hrest⟩ := Option.bind_eq_some_iff.1 h
    exact ih (hstep hb hc) hrest

namespace Table

def names (t : Table) : List String := t.entries.map fun entry => entry.1.name

def Distinct (t : Table) : Prop := t.names.Nodup

variable {t u : Table} {key : Key} {name : String} {v : Value}

theorem names_push (t : Table) (key : Key) (v : Value) : (t.push key v).names = t.names ++ [key.name] := by
  simp [names, push]

theorem names_put (t : Table) (name : String) (v : Value) : (t.put name v).names = t.names := by
  simp [names, put]

theorem names_without (t : Table) (name : String) :
    (t.without name).names = t.names.filter fun other => other ≠ name := by
  rw [names, names, without, List.filter_map]
  rfl

theorem get?_eq_none_iff : t.get? name = none ↔ name ∉ t.names := by
  rw [get?, Option.map_eq_none_iff, List.find?_eq_none]
  simp [names]

theorem has_eq_false_iff : t.has name = false ↔ name ∉ t.names := by
  rw [has, List.any_eq_false]
  simp [names]

theorem Distinct.push (distinct : t.Distinct) (fresh : key.name ∉ t.names) :
    (t.push key v).Distinct := by
  rw [Distinct, names_push, ← List.concat_eq_append]
  exact List.Nodup.concat fresh distinct

theorem Distinct.put (distinct : t.Distinct) : (t.put name v).Distinct := by
  rwa [Distinct, names_put]

theorem Distinct.replaced (distinct : t.Distinct) :
    ((t.without key.name).push key v).Distinct := by
  have hrest : (t.without key.name).Distinct := by
    rw [Distinct, names_without]
    exact distinct.filter _
  refine hrest.push ?_
  rw [names_without]
  simp

theorem Distinct.descend {dotted : Bool} {edit : Table → Option Table}
    (hedit : ∀ {t u}, t.Distinct → edit t = some u → u.Distinct) (path : List Key)
    (distinct : t.Distinct) (h : descend dotted edit path t = some u) : u.Distinct := by
  cases path with
  | nil => exact hedit distinct h
  | cons key path =>
    rw [Table.descend] at h
    split at h
    · obtain ⟨v, -, rfl⟩ := Option.map_eq_some_iff.1 h
      exact distinct.put
    · rename_i hnone
      obtain ⟨made, -, rfl⟩ := Option.map_eq_some_iff.1 h
      exact distinct.push (get?_eq_none_iff.1 hnone)

theorem Distinct.add {p : Pair} (distinct : t.Distinct) (h : t.add p = some u) : u.Distinct := by
  refine Distinct.descend (fun {t u} distinct hinsert => ?_) p.path distinct h
  split at hinsert
  · cases hinsert
  · rename_i hfree
    rw [Bool.or_eq_true, not_or, Bool.not_eq_true] at hfree
    cases hinsert
    exact distinct.push (has_eq_false_iff.1 hfree.1)

theorem Distinct.addAll {pairs : List Pair} (distinct : t.Distinct) (h : t.addAll pairs = some u) :
    u.Distinct :=
  kept_of_foldlM Distinct.add distinct h

end Table

theorem Section.distinct_addTo {s : Section} {parent made : Table} (distinct : parent.Distinct)
    (h : s.addTo parent = some made) : made.Distinct := by
  rw [Section.addTo] at h
  split at h
  · rename_i hnone
    obtain ⟨v, -, rfl⟩ := Option.map_eq_some_iff.1 h
    exact distinct.push (Table.get?_eq_none_iff.1 hnone)
  · obtain ⟨v, -, rfl⟩ := Option.map_eq_some_iff.1 h
    exact distinct.put
  · rename_i hnone
    obtain ⟨v, -, rfl⟩ := Option.map_eq_some_iff.1 h
    exact distinct.push (Table.get?_eq_none_iff.1 hnone)
  · obtain ⟨v, -, rfl⟩ := Option.map_eq_some_iff.1 h
    exact distinct.replaced
  · cases h

theorem Document.distinct_ofSections? {first : List Pair} {others : List Section} {d : Document}
    (h : ofSections? first others = some d) : d.root.Distinct := by
  obtain ⟨start, hstart, hrest⟩ := Option.bind_eq_some_iff.1 h
  obtain ⟨root, hroot, hd⟩ := Option.bind_eq_some_iff.1 hrest
  obtain rfl : (⟨root⟩ : Document) = d := Option.some.inj hd
  have hempty : (⟨.explicit, none, []⟩ : Table).Distinct := List.nodup_nil
  exact kept_of_foldlM (fun {_ s _} distinct hs => distinct.descend Section.distinct_addTo s.path hs)
    (hempty.addAll hstart) hroot

theorem Document.distinct_read? {source : String} {d : Document} (h : read? source = some d) :
    d.root.Distinct := by
  obtain ⟨⟨⟨first, others⟩, _⟩, -, hsections⟩ := Option.bind_eq_some_iff.1 h
  exact distinct_ofSections? hsections

end SpriteStage.Toml

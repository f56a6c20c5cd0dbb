import TableQuery.Proofs.Request.RoundTrip

/-!
# The grammar of written requests

Which values are written requests, said without the reader, which accepts these and no others.
-/
namespace TableQuery

open Outcome Value

namespace Wire

inductive IsCount : Value → Prop
  | absent : IsCount .null
  | given (n : Nat) : IsCount (.int n)

inductive IsDirection : Value → Prop
  | absent : IsDirection .null
  | given (n : Int) : IsDirection (.int n)

inductive IsSortKey : Value → Prop
  | map (es : List (Value × Value)) (name : String) (field : entry "field" es = .text name)
    (nonempty : name ≠ "") (order : IsDirection (entry "order" es)) : IsSortKey (.map es)

inductive IsSortKeys : Value → Prop
  | absent (v : Value) (h : v.truthy = false) : IsSortKeys v
  | list (items : List Value) (h : ∀ v ∈ items, IsSortKey v) : IsSortKeys (.list items)

inductive IsMode : Value → Prop
  | absent : IsMode .null
  | mode (m : MatchMode) : IsMode (.mode m)
  | name (m : MatchMode) : IsMode (.text m.name)
  | alias (name : String) (m : MatchMode) (h : (name, m.name) ∈ MatchMode.aliases) :
    IsMode (.text name)

inductive IsConnective : Value → Prop
  | absent : IsConnective .null
  | connective (c : Connective) : IsConnective (.connective c)
  | and : IsConnective (.text "and")
  | or : IsConnective (.text "or")

inductive IsCriterion : Value → Prop
  | map (es : List (Value × Value)) (mode : IsMode (entry "matchMode" es))
    (connective : IsConnective (entry "operator" es)) : IsCriterion (.map es)

inductive IsCriteria : Value → Prop
  | alone (v : Value) (h : IsCriterion v) : IsCriteria v
  | list (items : List Value) (h : ∀ v ∈ items, IsCriterion v) : IsCriteria (.list items)

inductive IsFilters : Value → Prop
  | absent (v : Value) (h : v.truthy = false) : IsFilters v
  | map (es : List (Value × Value)) (h : ∀ e ∈ es, (∃ name, e.1 = .text name) ∧ IsCriteria e.2) :
    IsFilters (.map es)

inductive IsRequest : Value → Prop
  | map (es : List (Value × Value)) (first : IsCount (entry "first" es))
    (rows : IsCount (entry "rows" es)) (sortKeys : IsSortKeys (entry "sortFields" es))
    (filters : IsFilters (entry "filters" es)) : IsRequest (.map es)

end Wire

namespace MatchMode

theorem ofName?_eq_some {name : String} {m : MatchMode} :
    ofName? name = some m ↔ name = m.name ∨ (name, m.name) ∈ aliases := by
  constructor
  · intro h
    have hname : m.name = plainName name := by simpa using List.find?_some h
    unfold plainName at hname
    cases hlookup : aliases.lookup name with
    | none =>
      rw [hlookup] at hname
      exact .inl hname.symm
    | some general =>
      rw [hlookup] at hname
      obtain ⟨before, after, hsplit, _⟩ := List.lookup_eq_some_iff.mp hlookup
      rw [hname, hsplit]
      exact .inr (List.mem_append_right _ List.mem_cons_self)
  · rintro (rfl | h)
    · exact ofName?_name m
    · have hevery : ∀ e ∈ aliases, ∀ m ∈ every, e.2 = m.name → ofName? e.1 = some m := by decide
      exact hevery _ h m (by cases m <;> decide) rfl

theorem exists_ofValue {v : Value} : (∃ m, ofValue v = .ok m) ↔ Wire.IsMode v := by
  constructor
  · rintro ⟨m, h⟩
    unfold ofValue at h
    split at h
    · exact .absent
    · exact .mode _
    · split at h
      · next m hname =>
        rcases ofName?_eq_some.mp hname with rfl | halias
        · exact .name m
        · exact .alias _ m halias
      · exact absurd h malformed_ne_ok
    · exact absurd h malformed_ne_ok
  · rintro (_ | m | m | ⟨name, m, halias⟩)
    · exact ⟨none, rfl⟩
    · exact ⟨some m, rfl⟩
    · exact ⟨some m, by simp only [ofValue, ofName?_name]⟩
    · exact ⟨some m, by simp only [ofValue, ofName?_eq_some.mpr (.inr halias)]⟩

end MatchMode

theorem Connective.exists_ofValue {v : Value} :
    (∃ c, ofValue v = .ok c) ↔ Wire.IsConnective v := by
  constructor
  · rintro ⟨c, h⟩
    unfold ofValue at h
    split at h
    · exact .absent
    · exact .connective _
    · split at h
      · next name _ d hname =>
        obtain rfl : d.name = name := by simpa using List.find?_some hname
        cases d with
        | all => exact .and
        | any => exact .or
      · exact absurd h malformed_ne_ok
    · exact absurd h malformed_ne_ok
  · rintro (_ | c | _ | _)
    · exact ⟨none, rfl⟩
    · exact ⟨some c, rfl⟩
    · exact ⟨some .all, by cbv⟩
    · exact ⟨some .any, by cbv⟩

theorem SortKey.exists_ofWire {v : Value} : (∃ k, ofWire v = .ok k) ↔ Wire.IsSortKey v := by
  simp only [ofWire_ok, ofParts_ok]
  constructor
  · rintro ⟨⟨name, d⟩, es, rfl, hfield, hname, hdirection⟩
    refine .map es name hfield hname ?_
    rw [hdirection]
    cases d with
    | none => exact .absent
    | some n => exact .given n
  · rintro ⟨es, name, hfield, hname, horder⟩
    cases hd : entry "order" es <;> rw [hd] at horder <;> cases horder
    · exact ⟨⟨name, none⟩, es, rfl, hfield, hname, hd⟩
    · exact ⟨⟨name, some _⟩, es, rfl, hfield, hname, hd⟩

theorem Criterion.exists_ofEntries {es : List (Value × Value)} :
    (∃ c, ofEntries es = .ok c) ↔
      Wire.IsMode (entry "matchMode" es) ∧ Wire.IsConnective (entry "operator" es) := by
  rw [← MatchMode.exists_ofValue, ← Connective.exists_ofValue]
  simp only [ofEntries, ofParts_ok]
  constructor
  · rintro ⟨c, _, hmode, hconnective⟩
    exact ⟨⟨_, hmode⟩, ⟨_, hconnective⟩⟩
  · rintro ⟨⟨m, hmode⟩, ⟨d, hconnective⟩⟩
    exact ⟨⟨_, m, d⟩, rfl, hmode, hconnective⟩

theorem Criterion.exists_ofWire {v : Value} : (∃ c, ofWire v = .ok c) ↔ Wire.IsCriterion v := by
  simp only [ofWire_ok]
  constructor
  · rintro ⟨c, es, rfl, hc⟩
    obtain ⟨hmode, hconnective⟩ := exists_ofEntries.mp ⟨c, hc⟩
    exact .map es hmode hconnective
  · rintro ⟨es, hmode, hconnective⟩
    obtain ⟨c, hc⟩ := exists_ofEntries.mpr ⟨hmode, hconnective⟩
    exact ⟨c, es, rfl, hc⟩

namespace Request

variable {v : Value} {e : Value × Value} {es : List (Value × Value)}

theorem exists_counts : (∃ n, Counts v n) ↔ Wire.IsCount v := by
  constructor
  · rintro ⟨n, ⟨rfl, _⟩ | rfl⟩
    · exact .absent
    · exact .given n
  · rintro (_ | n)
    · exact ⟨0, .inl ⟨rfl, rfl⟩⟩
    · exact ⟨n, .inr rfl⟩

theorem exists_count (part : String) : (∃ n, count part v = .ok n) ↔ Wire.IsCount v := by
  simp only [count_ok, exists_counts]

theorem exists_wireCriteria : (∃ x, wireCriteria e = .ok x) ↔ Wire.IsCriteria e.2 := by
  obtain ⟨key, v⟩ := e
  constructor
  · rintro ⟨x, h⟩
    unfold wireCriteria at h
    split at h
    · next es hv =>
      obtain rfl : v = .map es := hv
      obtain ⟨c, hc, _⟩ := bind_ok.mp h
      exact .alone _ (Criterion.exists_ofWire.mp ⟨c, hc⟩)
    · next items hv =>
      obtain rfl : v = .list items := hv
      obtain ⟨cs, hcs, _⟩ := bind_ok.mp h
      exact .list items fun w hw => Criterion.exists_ofWire.mp (exists_mapM.mp ⟨cs, hcs⟩ w hw)
    · exact absurd h malformed_ne_ok
  · rintro (⟨_, hv⟩ | ⟨items, hitems⟩)
    · obtain ⟨c, hc⟩ := Criterion.exists_ofWire.mpr hv
      obtain ⟨es, rfl, hes⟩ := Criterion.ofWire_ok.mp hc
      exact ⟨(key, [c]), bind_ok.mpr ⟨c, hes, rfl⟩⟩
    · obtain ⟨cs, hcs⟩ := exists_mapM.mpr fun w hw => Criterion.exists_ofWire.mpr (hitems w hw)
      exact ⟨(key, cs), bind_ok.mpr ⟨cs, hcs, rfl⟩⟩

theorem wireSortFields_ok {items : List Value} :
    wireSortFields v = .ok items ↔ v.truthy = false ∧ items = [] ∨ v = .list items := by
  constructor
  · intro h
    unfold wireSortFields at h
    split at h
    · split at h
      · exact .inr (congrArg _ (Except.ok.inj h))
      · exact absurd h malformed_ne_ok
    · next habsent => exact .inl ⟨by simpa using habsent, (Except.ok.inj h).symm⟩
  · rintro (⟨habsent, rfl⟩ | rfl)
    · simp [wireSortFields, habsent]
    · exact wireSortFields_list items

theorem wireFilters_ok_iff :
    wireFilters v = .ok es ↔ v.truthy = false ∧ es = [] ∨ v = .map es := by
  constructor
  · intro h
    unfold wireFilters at h
    split at h
    · split at h
      · exact .inr (congrArg _ (Except.ok.inj h))
      · exact absurd h malformed_ne_ok
    · next habsent => exact .inl ⟨by simpa using habsent, (Except.ok.inj h).symm⟩
  · rintro (⟨habsent, rfl⟩ | rfl)
    · simp [wireFilters, habsent]
    · exact wireFilters_map es

theorem exists_wireSortKeys :
    (∃ items keys, wireSortFields v = .ok items ∧ items.mapM SortKey.ofWire = .ok keys) ↔
      Wire.IsSortKeys v := by
  constructor
  · rintro ⟨items, keys, hitems, hkeys⟩
    rcases wireSortFields_ok.mp hitems with ⟨habsent, _⟩ | rfl
    · exact .absent v habsent
    · exact .list items fun w hw => SortKey.exists_ofWire.mp (exists_mapM.mp ⟨keys, hkeys⟩ w hw)
  · rintro (⟨_, habsent⟩ | ⟨items, hitems⟩)
    · exact ⟨[], [], wireSortFields_ok.mpr (.inl ⟨habsent, rfl⟩), rfl⟩
    · obtain ⟨keys, hkeys⟩ := exists_mapM.mpr fun w hw => SortKey.exists_ofWire.mpr (hitems w hw)
      exact ⟨items, keys, wireSortFields_list items, hkeys⟩

/-- The keys of the criteria are looked at last, but they are those of the map. -/
theorem exists_wireFilters :
    (∃ es criteria, wireFilters v = .ok es ∧ es.mapM wireCriteria = .ok criteria ∧
      ∀ x ∈ criteria, ∃ name, x.1 = .text name) ↔ Wire.IsFilters v := by
  constructor
  · rintro ⟨es, criteria, hes, hcriteria, hnamed⟩
    rcases wireFilters_ok_iff.mp hes with ⟨habsent, _⟩ | rfl
    · exact .absent v habsent
    · refine .map es fun e he => ?_
      obtain ⟨x, hx, hread⟩ := exists_of_forall₂ (mapM_ok.mp hcriteria) e he
      rw [(wireCriteria_ok hread).1]
      exact ⟨hnamed x hx, exists_wireCriteria.mp ⟨x, hread⟩⟩
  · rintro (⟨_, habsent⟩ | ⟨es, hes⟩)
    · exact ⟨[], [], wireFilters_ok_iff.mpr (.inl ⟨habsent, rfl⟩), rfl, by simp⟩
    · obtain ⟨criteria, hcriteria⟩ :=
        exists_mapM.mpr fun e he => exists_wireCriteria.mpr (hes e he).2
      refine ⟨es, criteria, wireFilters_map es, hcriteria, fun x hx => ?_⟩
      obtain ⟨e, he, hread⟩ := exists_of_mapM hcriteria x hx
      rw [← (wireCriteria_ok hread).1]
      exact (hes e he).1

theorem exists_assemble {offset pageSize globalField : Value} {sortKeys : List SortKey}
    {criteria : List (Value × List Criterion)} :
    (∃ r, assemble offset pageSize sortKeys criteria globalField = .ok r) ↔
      Wire.IsCount offset ∧ Wire.IsCount pageSize ∧ ∀ x ∈ criteria, ∃ name, x.1 = .text name := by
  rw [← exists_counts, ← exists_counts]
  simp only [assemble_ok]
  constructor
  · rintro ⟨r, hoffset, hpageSize, _, _, named, rfl, _⟩
    refine ⟨⟨_, hoffset⟩, ⟨_, hpageSize⟩, ?_⟩
    rw [List.forall_mem_map]
    exact fun e _ => ⟨e.1, rfl⟩
  · rintro ⟨⟨n, hoffset⟩, ⟨k, hpageSize⟩, hnamed⟩
    have hstep : ∀ x ∈ criteria, ∃ e : String × List Criterion, x = (.text e.1, e.2) := by
      rintro ⟨key, cs⟩ hx
      obtain ⟨name, rfl⟩ := hnamed _ hx
      exact ⟨(name, cs), rfl⟩
    obtain ⟨named, hall⟩ := forall₂_of_exists hstep
    have hcriteria : criteria = named.map fun e => (.text e.1, e.2) := by
      simpa using map_eq_of_forall₂ (f := id) hall
    exact ⟨⟨n, k, sortKeys, withoutEmpty named, globalField⟩, hoffset, hpageSize, rfl, rfl, named,
      hcriteria, rfl⟩

theorem exists_ofWire : (∃ r, ofWire v = .ok r) ↔ Wire.IsRequest v := by
  constructor
  · rintro ⟨r, h⟩
    cases v with
    | map es =>
      obtain ⟨items, hitems, h⟩ := bind_ok.mp h
      obtain ⟨filters, hfilters, h⟩ := bind_ok.mp h
      obtain ⟨criteria, hcriteria, h⟩ := bind_ok.mp h
      obtain ⟨keys, hkeys, h⟩ := bind_ok.mp h
      obtain ⟨hfirst, hrows, hnamed⟩ := exists_assemble.mp ⟨r, h⟩
      exact .map es hfirst hrows (exists_wireSortKeys.mp ⟨items, keys, hitems, hkeys⟩)
        (exists_wireFilters.mp ⟨filters, criteria, hfilters, hcriteria, hnamed⟩)
    | _ => exact absurd h malformed_ne_ok
  · rintro ⟨es, hfirst, hrows, hsortKeys, hfilters⟩
    obtain ⟨items, keys, hitems, hkeys⟩ := exists_wireSortKeys.mpr hsortKeys
    obtain ⟨filters, criteria, hfilters, hcriteria, hnamed⟩ := exists_wireFilters.mpr hfilters
    obtain ⟨r, hr⟩ := exists_assemble.mpr ⟨hfirst, hrows, hnamed⟩
    exact ⟨r, bind_ok.mpr ⟨items, hitems, bind_ok.mpr ⟨filters, hfilters, bind_ok.mpr
      ⟨criteria, hcriteria, bind_ok.mpr ⟨keys, hkeys, hr⟩⟩⟩⟩⟩

end Request

end TableQuery

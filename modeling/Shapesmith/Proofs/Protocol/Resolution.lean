import Mathlib.Data.List.Induction
import Shapesmith.Proofs.Table.Keys
import Shapesmith.Protocol.Registry

/-!
# Which protocol is found

A registry is described by the protocols that have been registered, from the first to the last
(`Registry.Obtained`).

* `Registry.Lists` : the ids in a registry are the ones that protocols were registered for, each at
  the place where it came up first;
* `Registry.Latest` : under an id lies the last protocol that was registered for it;
* `Registry.Resolves` says from this, and from the candidates of a service, what asking for its
  protocol gives;
* `Registry.resolve_iff` : this is what registries give, whatever was registered and in whatever
  order a service has its traits.
-/

namespace Shapesmith.Registry

/-- The registry comes of registering these protocols, some of them at once when it was made. -/
inductive Obtained : List Protocol → Registry → Prop
  /-- It has just been made. -/
  | ofList (protocols : List Protocol) : Obtained protocols (ofList protocols)
  /-- One more protocol has been registered. -/
  | register {registered : List Protocol} {r : Registry} (h : Obtained registered r)
    (p : Protocol) : Obtained (registered ++ [p]) (r.register p)

/-- The ids are those of registered protocols that have a property, each once, in the order in which
they were first registered. -/
structure Lists (registered : List Protocol) (P : ShapeId → Prop) (ids : List ShapeId) : Prop where
  /-- Each id is there once. -/
  once : ids.Nodup
  /-- Which ids are there. -/
  mem_iff : ∀ id, id ∈ ids ↔ (∃ p ∈ registered, p.id = id) ∧ P id
  /-- Their order. -/
  order : ids.Pairwise fun a b =>
    (registered.map (·.id)).idxOf a < (registered.map (·.id)).idxOf b

/-- The protocol is the last one that was registered for the id. -/
structure Latest (registered : List Protocol) (id : ShapeId) (p : Protocol) : Prop where
  /-- It was registered for the id. -/
  id_eq : p.id = id
  /-- None that came later was. -/
  last : ∃ earlier later, registered = earlier ++ p :: later ∧ ∀ q ∈ later, q.id ≠ id

/-- What asking for the protocol of a service gives. -/
inductive Resolves (registered : List Protocol) (service : ShapeId)
    (supported candidates : List ShapeId) : Option ShapeId → Except Failure Protocol → Prop
  /-- A protocol that the service declares can be asked for. -/
  | wanted {id : ShapeId} {p : Protocol} (h : id ∈ candidates) (hp : Latest registered id p) :
    Resolves registered service supported candidates (some id) (.ok p)
  /-- No other one can. -/
  | refused {id : ShapeId} (h : id ∉ candidates) :
    Resolves registered service supported candidates (some id)
      (.error (.badOverride service id candidates))
  /-- If none is asked for, it is the only one. -/
  | only {id : ShapeId} {p : Protocol} (h : candidates = [id]) (hp : Latest registered id p) :
    Resolves registered service supported candidates none (.ok p)
  /-- There may be none. -/
  | unknown (h : candidates = []) :
    Resolves registered service supported candidates none (.error (.noProtocol service supported))
  /-- There may be several. -/
  | ambiguous (h : 1 < candidates.length) :
    Resolves registered service supported candidates none
      (.error (.ambiguousProtocol service candidates))

variable {registered : List Protocol} {id : ShapeId}

/-! ### Registering -/

theorem ofList_concat (p : Protocol) :
    ofList (registered ++ [p]) = (ofList registered).register p := by
  rw [ofList, ofList, List.foldl_append, List.foldl_cons, List.foldl_nil]

/-- It makes no difference which protocols are given at once. -/
theorem Obtained.eq_ofList {r : Registry} (h : Obtained registered r) :
    r = Registry.ofList registered := by
  induction h with
  | ofList => rfl
  | register _ p ih => rw [ofList_concat, ← ih]

theorem mem_supported_iff : id ∈ (ofList registered).supported ↔ ∃ p ∈ registered, p.id = id := by
  induction registered using List.reverseRecOn with
  | nil => simp [ofList, supported, Table.keys]
  | append_singleton registered p ih =>
    have hcons : id ∈ (ofList (registered ++ [p])).supported ↔
        id ∈ (ofList registered).supported ∨ id = p.id := by
      rw [ofList_concat, supported, register, Table.keys_put]
      by_cases hp : p.id ∈ Table.keys (ofList registered)
      · rw [if_pos hp, supported]
        refine ⟨.inl, ?_⟩
        rintro (h | rfl)
        · exact h
        · exact hp
      · rw [if_neg hp, List.mem_append, List.mem_singleton, supported]
    rw [hcons, ih]
    simp only [List.mem_append, List.mem_singleton, or_and_right, exists_or, exists_eq_left]
    rw [eq_comm (a := id)]

/-- Ids keep their places when another one is put behind them, and a new one comes after them. -/
theorem idxOf_concat_lt {ids : List ShapeId} {a b : ShapeId} (ha : a ∈ ids)
    (h : b ∈ ids → ids.idxOf a < ids.idxOf b) :
    (ids ++ [id]).idxOf a < (ids ++ [id]).idxOf b := by
  rw [List.idxOf_append_of_mem ha]
  by_cases hmem : b ∈ ids
  · rw [List.idxOf_append_of_mem hmem]
    exact h hmem
  · rw [List.idxOf_append_of_notMem hmem]
    exact Nat.lt_add_right _ (List.idxOf_lt_length_of_mem ha)

theorem pairwise_supported (registered : List Protocol) :
    (ofList registered).supported.Pairwise fun a b =>
      (registered.map (·.id)).idxOf a < (registered.map (·.id)).idxOf b := by
  induction registered using List.reverseRecOn with
  | nil => exact List.Pairwise.nil
  | append_singleton registered p ih =>
    have hmem {id : ShapeId} (h : id ∈ (ofList registered).supported) :
        id ∈ registered.map (·.id) := List.mem_map.2 (mem_supported_iff.1 h)
    have hold : (ofList registered).supported.Pairwise fun a b =>
        ((registered ++ [p]).map (·.id)).idxOf a < ((registered ++ [p]).map (·.id)).idxOf b := by
      rw [List.map_append]
      exact ih.imp_of_mem fun ha _ hab => idxOf_concat_lt (hmem ha) fun _ => hab
    rw [ofList_concat, supported, register, Table.keys_put]
    by_cases hp : p.id ∈ Table.keys (ofList registered)
    · rw [if_pos hp]
      exact hold
    · rw [if_neg hp]
      refine List.pairwise_append.2 ⟨hold, List.pairwise_singleton _ _, fun a ha b hb => ?_⟩
      obtain rfl := List.mem_singleton.1 hb
      have hnew : p.id ∉ registered.map (·.id) :=
        fun h => hp (mem_supported_iff.2 (List.mem_map.1 h))
      rw [List.map_append]
      exact idxOf_concat_lt (hmem ha) fun h => absurd h hnew

/-- The ids of a registry are those of registered protocols, in the order of their first
registrations. -/
theorem lists_supported (registered : List Protocol) :
    Lists registered (fun _ => True) (ofList registered).supported := by
  have horder := pairwise_supported registered
  refine ⟨horder.imp fun hab heq => ?_, fun id => ?_, horder⟩
  · rw [heq] at hab
    exact Nat.lt_irrefl _ hab
  · rw [mem_supported_iff, and_true]

/-- Leaving out ids leaves the others as they are. -/
theorem Lists.filter {ids : List ShapeId} (h : Lists registered (fun _ => True) ids)
    {keep : ShapeId → Bool} : Lists registered (fun id => keep id = true) (ids.filter keep) where
  once := h.once.filter keep
  mem_iff id := by rw [List.mem_filter, h.mem_iff, and_true]
  order := h.order.filter keep

theorem latest_concat_iff {p q : Protocol} :
    Latest (registered ++ [q]) id p ↔ if q.id = id then p = q else Latest registered id p := by
  constructor
  · rintro ⟨hp, earlier, later, h, hlater⟩
    rcases List.eq_nil_or_concat later with rfl | ⟨later, x, rfl⟩
    · obtain ⟨rfl, hpq⟩ := List.append_inj' h rfl
      obtain rfl := List.singleton_inj.1 hpq
      rw [if_pos hp]
    · rw [List.concat_eq_append, ← List.cons_append, ← List.append_assoc] at h
      obtain ⟨rfl, hqx⟩ := List.append_inj' h rfl
      obtain rfl := List.singleton_inj.1 hqx
      rw [if_neg (hlater q (by simp))]
      exact ⟨hp, earlier, later, rfl, fun x hx => hlater x (by simp [hx])⟩
  · intro h
    split at h
    · rename_i hq
      subst h
      exact ⟨hq, registered, [], rfl, by simp⟩
    · rename_i hq
      obtain ⟨hp, earlier, later, rfl, hlater⟩ := h
      refine ⟨hp, earlier, later ++ [q], by simp, fun x hx => ?_⟩
      rcases List.mem_append.1 hx with hx | hx
      · exact hlater x hx
      · rwa [List.mem_singleton.1 hx]

/-- Under an id lies the last protocol that was registered for it. -/
theorem get?_ofList_eq_some_iff {p : Protocol} :
    Table.get? (ofList registered) id = some p ↔ Latest registered id p := by
  induction registered using List.reverseRecOn with
  | nil =>
    simp only [ofList, List.foldl_nil, Table.get?_nil, reduceCtorEq, false_iff]
    rintro ⟨-, earlier, later, h, -⟩
    simp at h
  | append_singleton registered q ih =>
    rw [ofList_concat, register, latest_concat_iff, ← ih]
    by_cases hq : q.id = id
    · rw [if_pos hq, ← hq, Table.get?_put_self, Option.some.injEq, eq_comm]
    · rw [if_neg hq, Table.get?_put_of_ne _ _ (Ne.symm hq)]

/-! ### Asking -/

theorem lists_candidates (registered : List Protocol) (service : Shape) :
    Lists registered (fun id => id.text ∈ Table.keys service.traits)
      ((ofList registered).candidates service) := by
  simp only [← Table.has_iff]
  exact (lists_supported registered).filter

/-- The order of traits says nothing about which protocols a service declares. -/
theorem candidates_congr (r : Registry) {service : Shape} {traits : Traits}
    (h : traits.Perm service.traits) :
    r.candidates { service with traits := traits } = r.candidates service := by
  have hhas (key : String) : Table.has traits key = Table.has service.traits key := by
    rw [Bool.eq_iff_iff, Table.has_iff, Table.has_iff]
    exact (h.map _).mem_iff
  simp only [candidates, hhas]

theorem exists_latest (h : id ∈ (ofList registered).supported) : ∃ p, Latest registered id p := by
  rw [supported, ← Table.has_iff, Table.has, Option.isSome_iff_exists] at h
  obtain ⟨p, hp⟩ := h
  exact ⟨p, get?_ofList_eq_some_iff.1 hp⟩

theorem protocolOf_of_latest (service : Shape) {p : Protocol} (h : Latest registered id p) :
    (ofList registered).protocolOf service id = .ok p := by
  rw [protocolOf, get?_ofList_eq_some_iff.2 h]

variable {service : Shape} {wanted : Option ShapeId}

/-- Asking gives nothing else. -/
theorem Resolves.resolve_eq {out : Except Failure Protocol}
    (h : Resolves registered service.id (ofList registered).supported
      ((ofList registered).candidates service) wanted out) :
    (ofList registered).resolve service wanted = out := by
  unfold resolve
  cases h with
  | wanted h hp => simp only [List.contains_iff_mem, h, if_true, protocolOf_of_latest service hp]
  | refused h => simp only [List.contains_iff_mem, h, if_false]
  | only h hp => simp only [h, protocolOf_of_latest service hp]
  | unknown h => simp only [h]
  | ambiguous h =>
    match hc : (ofList registered).candidates service with
    | [] | [_] => simp [hc] at h
    | _ :: _ :: _ => rfl

/-- There is always something that asking gives. -/
theorem exists_resolution (registered : List Protocol) (service : Shape) (wanted : Option ShapeId) :
    ∃ out, Resolves registered service.id (ofList registered).supported
      ((ofList registered).candidates service) wanted out := by
  have hlatest (id : ShapeId) (h : id ∈ (ofList registered).candidates service) :
      ∃ p, Latest registered id p := exists_latest (List.mem_of_mem_filter h)
  cases wanted with
  | some id =>
    by_cases h : id ∈ (ofList registered).candidates service
    · obtain ⟨p, hp⟩ := hlatest id h
      exact ⟨_, .wanted h hp⟩
    · exact ⟨_, .refused h⟩
  | none =>
    match hc : (ofList registered).candidates service with
    | [] => exact ⟨_, .unknown rfl⟩
    | [id] =>
      obtain ⟨p, hp⟩ := hlatest id (by simp [hc])
      exact ⟨_, .only rfl hp⟩
    | _ :: _ :: _ => exact ⟨_, .ambiguous (by simp)⟩

/-- Whatever has been registered, the candidates of a service are the ids of protocols that it has a
trait for, each once, in the order of their first registrations. The protocol of the service is the
candidate that is asked for, or the only one if none is asked for, and for this id the last one that
was registered. All else is refused, with the ids to choose from. The order of the traits has no
part in it. -/
theorem resolve_iff {r : Registry} (h : Obtained registered r) :
    Lists registered (fun _ => True) r.supported ∧
    ∀ service : Shape,
      Lists registered (fun id => id.text ∈ Table.keys service.traits) (r.candidates service) ∧
      (∀ wanted out, r.resolve service wanted = out ↔
        Resolves registered service.id r.supported (r.candidates service) wanted out) ∧
      ∀ traits, traits.Perm service.traits → ∀ wanted,
        r.resolve { service with traits := traits } wanted = r.resolve service wanted := by
  obtain rfl := h.eq_ofList
  refine ⟨lists_supported _, fun service => ⟨lists_candidates _ service, fun wanted out => ?_,
    fun traits htraits wanted => ?_⟩⟩
  · refine ⟨?_, Resolves.resolve_eq⟩
    rintro rfl
    obtain ⟨out, hout⟩ := exists_resolution registered service wanted
    rwa [hout.resolve_eq]
  · have hcandidates := candidates_congr (ofList registered) htraits
    unfold resolve
    rw [hcandidates]
    rfl

/-- A protocol to be registered. -/
def sample (name contentType : String) : Protocol :=
  protocol "a" name .rpc contentType errorHeader

/-- A registry in which one of two protocols has been registered once more. -/
def sampleRegistry : Registry :=
  (ofList [sample "text" "text/old", sample "bits" "bits"]).register (sample "text" "text/new")

/-- A service that declares protocols. -/
def sampleService (names : List String) : Shape :=
  ⟨⟨"a", "Shop", none⟩, .service "1" [], names.map fun name => ("a#" ++ name, .other (.obj []))⟩

/-- A service that declares both protocols has to ask for one, and gets it in its newer version. -/
theorem resolve_iff_sample :
    sampleRegistry.resolve (sampleService ["bits", "text"]) (some ⟨"a", "text", none⟩) =
      .ok (sample "text" "text/new") ∧
    sampleRegistry.resolve (sampleService ["bits", "text"]) none =
      .error (.ambiguousProtocol ⟨"a", "Shop", none⟩
        [⟨"a", "text", none⟩, ⟨"a", "bits", none⟩]) ∧
    sampleRegistry.resolve (sampleService ["text", "bits"]) none =
      sampleRegistry.resolve (sampleService ["bits", "text"]) none := by
  have hr : Obtained _ sampleRegistry := (Obtained.ofList _).register _
  obtain ⟨-, hservice⟩ := resolve_iff hr
  obtain ⟨-, hresolve, hperm⟩ := hservice (sampleService ["bits", "text"])
  refine ⟨?_, ?_, ?_⟩
  · exact (hresolve _ _).2 (.wanted (by decide) ⟨rfl, [_, _], [], rfl, by simp⟩)
  · exact (hresolve _ _).2 (.ambiguous (by decide))
  · exact hperm (sampleService ["text", "bits"]).traits (List.Perm.swap _ _ _) none

end Shapesmith.Registry

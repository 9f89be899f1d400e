import Shapesmith.Proofs.Builder.Reported
import Shapesmith.Proofs.Evaluation.AcceptedDefault
import Shapesmith.Proofs.Evaluation.Located

/-!
# Reports locate what they report

The paths in the report of an evaluation or a build are made of the names that lead from the input,
with defaults where nothing is given, to what is wrong.

* `Validator.reports_located` : this holds of each violation, and of a value of the wrong type below
  the top.
-/

namespace Shapesmith

/-! ### A box that is not filled well -/

/-- The structure of the box. -/
def boxShape : Shape :=
  ⟨⟨"a", "Box", none⟩, .struct [sizeMember.id, labelMember.id, partMember.id], []⟩

/-- The symbols of its model on a server. -/
def Symbols.box : Symbols := ⟨.box, Placeholder.service, .server true, []⟩

/-- A label of the right type, and a size below the least. The part is left to its default. -/
def misfilledBox : List (String × Json) := [("label", .num (.int 1)), ("size", .num (.int (-1)))]

/-- What is wrong with it: the size, and the default of the part, which has no name. -/
def boxViolations : Violations :=
  [⟨"/size", .range (.int (-1)) ⟨some (.int 0), none⟩⟩, ⟨"/part/name", .missingRequired⟩]

/-! ### Reports -/

/-- The path of each violation that an evaluation or a build reports is made of the names that lead
to what it is about, and so is the path of a value of the wrong type below the top. Names lead to
one value only, and different rows of names make different paths. -/
theorem Validator.reports_located {m : Model} (hm : m.Assembled) {v : Validator}
    (hv : ofModel m = .ok v) {s : Shape} (hs : s ∈ m.shapes) :
    (∀ j : Json, j.Distinct →
      (∀ x ∈ (v.validate s j "").violations, m.Locates (m.targetOf s) j x) ∧
      ∀ path expected, (v.validate s j "").outcome = .error (.wrongType path expected) →
        (m.targetOf s).kind.Accepts j → m.Mistypes (m.targetOf s) j path expected) ∧
    (∀ (y : Symbols) (p : Protocol) (a : Artifact), y.model = m → y.artifact p s = .ok a →
      ∀ given, (Json.obj given).Distinct →
        (∀ vs, a.build v given = .error (.violations vs) → ∀ x ∈ vs, m.Locates s (.obj given) x) ∧
        ∀ path expected, a.build v given = .error (.misfit (.wrongType path expected)) →
          m.Mistypes s (.obj given) path expected) ∧
    (∀ j : Json, j.Distinct → ∀ names t x u y,
      m.Route s j names t x → m.Route s j names u y → t = u ∧ x = y) ∧
    ∀ names names', Pointer.along "" names = Pointer.along "" names' → names = names' := by
  have hm := Model.sound_of_assembled hm
  have hofModel := hv
  obtain ⟨rfl, hc⟩ := of_ofModel hv
  refine ⟨fun j hd => ?_, ?_, fun j hd names t x u y h h' => h.unique hm hs hd h',
    fun names names' => Pointer.along_injective⟩
  · have hp := proper_spot hm hs hd ""
    have hhold := forget_validate v s j ""
    constructor
    · intro x hx
      rw [← Verdict.forget_violations, hhold] at hx
      obtain ⟨site, hsite, rfl⟩ := exists_failing_of_mem hm hc hp hx
      exact hsite.locates
    · intro path expected herror ha
      rw [← Verdict.forget_outcome_eq_error_iff, hhold] at herror
      exact (exists_misfitting_of_error hm hp herror nofun).mistypes ha
  · intro y p a hy hartifact given hd
    obtain ⟨hstruct, hf, -⟩ := Symbols.of_artifact hartifact
    rw [hy] at hf
    constructor
    · intro vs hbuild x hx
      obtain ⟨site, hsite, rfl⟩ :=
        Artifact.exists_failing_of_build hm hofModel hs hstruct hf hd hbuild hx
      exact hsite.locates
    · intro path expected hbuild
      have hp : Spot.Proper v.model ⟨s, .obj given, ""⟩ := ⟨hs, hd⟩
      have ha : s.kind.Accepts (.obj given) := by
        obtain ⟨ids, hk⟩ := Shape.isStruct_iff.1 hstruct
        exact hk ▸ .struct ids given
      obtain ⟨name, hname⟩ | ⟨step, q, hpart, he⟩ :=
        Artifact.of_build_misfit hm hs hstruct hf hd hbuild
      · cases hname
      · have hq := exists_misfitting_of_error hm (hp.part hm hpart) he nofun
        have hmisfitting := Model.misfitting_iff.2 (.inr ⟨step, q, hpart, hq⟩)
        exact hmisfitting.mistypes ha

/-- With a label of its own the box gets as far as the default of the part, and without one it is
refused for the default of the label. -/
theorem Validator.reports_located_box :
    ((⟨.box, []⟩ : Validator).validate boxShape (.obj misfilledBox) "").violations =
        boxViolations ∧
      (∀ x ∈ boxViolations, Model.box.Locates boxShape (.obj misfilledBox) x) ∧
      ∃ a, Symbols.box.artifact Placeholder.protocol boxShape = .ok a ∧
        a.build ⟨.box, []⟩ misfilledBox = .error (.violations boxViolations) ∧
        a.build ⟨.box, []⟩ [] = .error (.misfit (.wrongType "/label" "integer")) ∧
        Model.box.Mistypes boxShape (.obj []) "/label" "integer" := by
  have hs : boxShape ∈ Model.box.shapes := by decide
  have hreport : ((⟨.box, []⟩ : Validator).validate boxShape (.obj misfilledBox) "").violations =
      boxViolations := by
    decide
  have hbuild : (Symbols.box.artifact Placeholder.protocol boxShape).map
      (fun a => (a.build ⟨.box, []⟩ misfilledBox, a.build ⟨.box, []⟩ [])) =
        .ok (.error (.violations boxViolations),
          .error (.misfit (.wrongType "/label" "integer"))) := by
    decide
  obtain ⟨a, ha, hbuild⟩ := Except.map_eq_ok_iff.1 hbuild
  obtain ⟨hfilled, hempty⟩ := Prod.mk.inj hbuild
  obtain ⟨hvalidate, hbuilds, -⟩ := reports_located Model.assembled_box ofModel_box hs
  rw [Model.targetOf_of_holder (.inl rfl)] at hvalidate
  obtain ⟨hlocates, -⟩ := hvalidate (.obj misfilledBox) (by decide)
  obtain ⟨-, hmistypes⟩ := hbuilds Symbols.box Placeholder.protocol a rfl ha [] (by decide)
  exact ⟨hreport, fun x hx => hlocates x (hreport ▸ hx), a, ha, hfilled, hempty,
    hmistypes _ _ hempty⟩

end Shapesmith

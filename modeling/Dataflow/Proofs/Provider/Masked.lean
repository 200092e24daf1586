import Dataflow.Provider.Basic
import Mathlib.Data.List.Forall2

/-!
# What logs tell of keys

A service holds the key that it was given, and so do the credentials and the families that it is
part of. Each has a text for logs, and none of these texts changes when keys are replaced by
stars (`masked_starred`, `printsAlike_starred`). The families that credentials give are then the
same but for the stars (`families_starred`), so two credentials with different keys for the same
providers cannot be told apart by anything that is printed (`masked_families`).
-/

namespace Dataflow

/-! ## Stars for keys -/

namespace Service

/-- The service with stars for its key. -/
def starred (s : Service) : Service := { s with key := "***" }

theorem masked_starred (s : Service) : s.starred.masked = s.masked := rfl

end Service

namespace ServiceFamily

/-- The family with stars for the key of its service. -/
def starred (f : ServiceFamily) : ServiceFamily := { f with service := f.service.starred }

/-- Two families cannot be told apart by what is printed of them: names, models, and the texts
for logs of the family and of its service. -/
structure PrintsAlike (f f' : ServiceFamily) : Prop where
  name : f.name = f'.name
  models : f.models = f'.models
  provider : f.service.provider.name = f'.service.provider.name
  masked : f.masked = f'.masked
  service : f.service.masked = f'.service.masked

theorem printsAlike_starred (f : ServiceFamily) : f.PrintsAlike f.starred :=
  ⟨rfl, rfl, rfl, rfl, f.service.masked_starred.symm⟩

/-- Families that are the same under the stars print alike. -/
theorem printsAlike_of_starred {f f' : ServiceFamily} (same : f.starred = f'.starred) :
    f.PrintsAlike f' := by
  have first := f.printsAlike_starred
  have second := f'.printsAlike_starred
  rw [same] at first
  exact ⟨first.name.trans second.name.symm, first.models.trans second.models.symm,
    first.provider.trans second.provider.symm, first.masked.trans second.masked.symm,
    first.service.trans second.service.symm⟩

end ServiceFamily

namespace Credentials

variable {c c' : Credentials} {preference : Preference}

/-- The credentials with stars for the keys that are set. -/
def starred (c : Credentials) : Credentials :=
  { c with
    openaiKey? := c.openaiKey?.map fun _ => "***"
    perplexityKey? := c.perplexityKey?.map fun _ => "***" }

theorem masked_starred (c : Credentials) : c.starred.masked = c.masked := by
  have mask : ∀ key? : Option String,
      ((key?.map fun _ => "***").map fun _ => quoted "***") = key?.map fun _ => quoted "***" := by
    intro key?
    cases key? <;> rfl
  unfold masked starred
  dsimp only
  rw [mask, mask]

theorem key?_starred (c : Credentials) (provider : Provider) :
    c.starred.key? provider = (c.key? provider).map fun _ => "***" := by
  cases provider <;> rfl

theorem url?_starred (c : Credentials) (provider : Provider) :
    c.starred.url? provider = c.url? provider := by
  cases provider <;> rfl

/-- Starring the keys of credentials stars the key of each family. -/
theorem family?_starred (c : Credentials) (provider : Provider) :
    c.starred.family? provider = (c.family? provider).map ServiceFamily.starred := by
  rw [family?, family?, key?_starred, url?_starred, Option.map_map, Option.map_map]
  rfl

/-- Stars do not change which families are given, nor what is in them but for the keys. -/
theorem families_starred (c : Credentials) (preference : Preference) :
    c.starred.families preference = (c.families preference).map ServiceFamily.starred := by
  rw [families, families, List.map_filterMap]
  exact List.filterMap_congr fun provider _ => c.family?_starred provider

/-! ## Credentials with other keys -/

/-- The same keys are set, whatever they are, and all else is the same. -/
structure AlikeButKeys (c c' : Credentials) : Prop where
  openaiKey : c.openaiKey?.isSome = c'.openaiKey?.isSome
  perplexityKey : c.perplexityKey?.isSome = c'.perplexityKey?.isSome
  openaiUrl : c.openaiUrl? = c'.openaiUrl?
  perplexityUrl : c.perplexityUrl? = c'.perplexityUrl?
  preferredModel : c.preferredModel? = c'.preferredModel?

theorem map_const_congr {key? key?' : Option String} (same : key?.isSome = key?'.isSome) :
    (key?.map fun _ => "***") = key?'.map fun _ => "***" := by
  cases key? <;> cases key?' <;> simp_all

/-- Credentials that differ in the texts of keys alone are the same once starred. -/
theorem AlikeButKeys.starred_eq (alike : c.AlikeButKeys c') : c.starred = c'.starred := by
  rw [starred, starred, map_const_congr alike.openaiKey, map_const_congr alike.perplexityKey,
    alike.openaiUrl, alike.perplexityUrl, alike.preferredModel]

/-- Nothing printed depends on the text of a key: credentials that differ in those only have the
same text for logs, and give families that print alike, one by one. -/
theorem masked_families (alike : c.AlikeButKeys c') (preference : Preference) :
    c.masked = c'.masked ∧
    List.Forall₂ ServiceFamily.PrintsAlike (c.families preference) (c'.families preference) := by
  -- under the stars both credentials are one
  have same := alike.starred_eq
  constructor
  · rw [← c.masked_starred, same, c'.masked_starred]
  · have starred : (c.families preference).map ServiceFamily.starred =
        (c'.families preference).map ServiceFamily.starred := by
      rw [← families_starred, same, families_starred]
    rw [← List.forall₂_eq_eq_eq, List.forall₂_map_left_iff, List.forall₂_map_right_iff] at starred
    exact starred.imp fun _ _ => ServiceFamily.printsAlike_of_starred

/-! ## Two keys for one provider -/

namespace Rotated

/-- Before the key is replaced. -/
def old : Credentials := { openaiKey? := some "sk-old", preferredModel? := some "gpt-4o" }

/-- A key that looks like the rest of the text. -/
def new : Credentials := { old with openaiKey? := some "***\"), openai_base_url: None" }

theorem masked_families_rotated :
    old.families .any ≠ new.families .any ∧ old.AlikeButKeys new ∧
    old.masked = new.masked ∧
    List.Forall₂ ServiceFamily.PrintsAlike (old.families .any) (new.families .any) := by
  have alike : old.AlikeButKeys new := ⟨rfl, rfl, rfl, rfl, rfl⟩
  exact ⟨by decide +kernel, alike, masked_families alike .any⟩

end Rotated

end Credentials

end Dataflow

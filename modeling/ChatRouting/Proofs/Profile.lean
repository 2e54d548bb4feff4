import ChatRouting.Profile
import ChatRouting.Proofs.Json.Decoding
import ChatRouting.Proofs.Json.Indented
import ChatRouting.Proofs.Text

/-!
# Profiles that were stored

A profile is read back from the file it was written to, whatever characters its id and its nickname
have and whichever of them it lacks. The parts that are absent are left out of the text, and a part
that a text leaves out is absent.

## Main results

* `Profile.load_save`: a profile is read back from its file
-/

namespace ChatRouting

namespace Profile

theorem ofJson?_toJson (p : Profile) : ofJson? p.toJson = some p := by
  have hnullable (s : String) : Json.nullable Json.text? (.text s) = some (some s) := rfl
  obtain ⟨localId, nickname, ignoreOwnEcho⟩ := p
  cases localId <;> cases nickname <;>
    · rw [ofJson?, toJson, Json.Fields.ofJson?_record _ (by simp [part])]
      simp [part, Json.Fields.optional, Json.Fields.defaulted, Json.Fields.find?,
        List.lookup_cons, hnullable, Json.bool?]

theorem isDecimal_toJson (p : Profile) : p.toJson.isDecimal := by
  obtain ⟨localId, nickname, ignoreOwnEcho⟩ := p
  cases localId <;> cases nickname <;> simp [toJson, part, Json.isDecimal]

/-- **A profile is read back from its file.** -/
theorem load_save (p : Profile) : load (some (Bytes.ofText p.save)) = .ok p := by
  simp only [load, Bytes.text?_ofText, save, Json.parse_pretty p.isDecimal_toJson, Option.bind_some,
    ofJson?_toJson]

end Profile

end ChatRouting

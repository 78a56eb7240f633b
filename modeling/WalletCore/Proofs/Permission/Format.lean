import WalletCore.Permission.Caveat
import WalletCore.Proofs.Json.Records

/-! # Permissions survive being written

A permission is decoded again from what is written of it, unchanged, and it is read again from its
text if the values of its caveats can be stored there.
-/
namespace WalletCore.Permission

open Json

namespace Caveat

/-- A caveat that is written is decoded again. -/
theorem decoder_toJson (caveat : Caveat) : decoder.ofJson caveat.toJson = .ok caveat := by
  have type : Decoder.string.ofJson (.string caveat.type) = .ok caveat.type := rfl
  have value : Decoder.any.ofJson caveat.value = .ok caveat.value := rfl
  exact Record.Takes.ofJson (.field rfl (Decoder.map_ofJson type _)
    (.field rfl (Decoder.map_ofJson value _) (.done _))) (by simp [Entries.names]) rfl

/-- A caveat is restored from its written form, if its value can be stored within one bracket
less. -/
theorem decoder_restores {layout : Layout} (plain : layout.Plain) {caveat : Caveat}
    {depth length : Nat} (storable : Storable depth caveat.value) (indent : Nat)
    (enough : (write layout indent caveat.toJson).length < length) :
    Restores (decoder.read ⟨depth + 1, length⟩) (write layout indent caveat.toJson) caveat := by
  unfold toJson at enough ⊢
  obtain ⟨shorter, -⟩ := length_write_object plain indent _
  have parts := fun member inside => Nat.lt_trans (shorter member inside).2 enough
  have type : Restores (Decoder.string.read ⟨depth, length⟩) (writeString caveat.type)
      caveat.type := Decoder.string_restores (parts ("type", .string caveat.type) (by simp))
  have value : Restores (Decoder.any.read ⟨depth, length⟩) (write layout (indent + 1) caveat.value)
      caveat.value :=
    restores_write plain storable (indent + 1) (parts ("value", caveat.value) (by simp))
  exact Record.read_restores plain indent (.field rfl rfl (Decoder.map_restores _ type)
    (.field rfl rfl (Decoder.map_restores _ value) (.done _))) rfl enough

end Caveat

namespace Grant

/-- A permission that is written is decoded again. -/
theorem decoder_toJson (grant : Grant) : decoder.ofJson grant.toJson = .ok grant := by
  have capability : Decoder.string.ofJson (.string grant.capability) = .ok grant.capability := rfl
  have invoker : Decoder.string.ofJson (.string grant.invoker) = .ok grant.invoker := rfl
  have caveats := Decoder.list_map Caveat.decoder_toJson grant.caveats
  exact Record.Takes.ofJson (.field rfl (Decoder.map_ofJson capability _)
    (.field rfl (Decoder.map_ofJson invoker _) (.field rfl (Decoder.map_ofJson caveats _)
      (.done _)))) (by simp [Entries.names]) rfl

/-- The values of the caveats of a permission that can be stored stand behind three brackets. -/
theorem storable_value {depth : Nat} {grant : Grant}
    (storable : Storable (depth + 3) grant.toJson) {caveat : Caveat}
    (member : caveat ∈ grant.caveats) : Storable depth caveat.value := by
  have listed : grant.toJson.get? "caveats" = some (.array (grant.caveats.map Caveat.toJson)) := rfl
  have held : caveat.toJson.get? "value" = some caveat.value := rfl
  cases storable.get? listed with
  | array inner => exact (inner _ (List.mem_map_of_mem member)).get? held

/-- A permission that can be stored is read again from its text. -/
theorem ofText_compact {grant : Grant} (storable : Storable maxDepth grant.toJson) :
    decoder.ofText grant.toJson.compact = .ok grant := by
  have plain := Layout.plain_compact
  let length := (write .compact 0 grant.toJson).length + 1
  have enough : (write .compact 0 grant.toJson).length < length := Nat.lt_succ_self _
  obtain ⟨shorter, -⟩ := length_write_object plain 0 _
  have parts := fun member inside => Nat.lt_trans (shorter member inside).2 enough
  have capability : Restores (Decoder.string.read ⟨126, length⟩) (writeString grant.capability)
      grant.capability :=
    Decoder.string_restores (parts ("parentCapability", .string grant.capability) (by simp))
  have invoker : Restores (Decoder.string.read ⟨126, length⟩) (writeString grant.invoker)
      grant.invoker :=
    Decoder.string_restores (parts ("invoker", .string grant.invoker) (by simp))
  have list := parts ("caveats", .array (grant.caveats.map Caveat.toJson)) (by simp)
  obtain ⟨shorterItems, -⟩ := length_write_array plain 1 (grant.caveats.map Caveat.toJson)
  have caveats : Restores ((Decoder.list Caveat.decoder).read ⟨126, length⟩)
      (write .compact 1 (.array (grant.caveats.map Caveat.toJson))) grant.caveats := by
    refine Decoder.list_restores plain 1 (fun caveat member => ?_) list
    have fits := Nat.lt_trans (shorterItems _ (List.mem_map_of_mem member)) list
    exact caveat.decoder_restores plain (storable_value storable member) 2 fits
  have whole : Restores (decoder.read ⟨127, length⟩) (write .compact 0 grant.toJson) grant :=
    Record.read_restores plain 0 (.field rfl rfl (Decoder.map_restores _ capability)
      (.field rfl rfl (Decoder.map_restores _ invoker)
        (.field rfl rfl (Decoder.map_restores _ caveats) (.done _)))) rfl enough
  exact whole.ofText

end Grant

end WalletCore.Permission

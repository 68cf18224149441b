import Mathlib.Data.List.TakeWhile
import OfflineSite.Asset.Server
import OfflineSite.Proofs.Text.Percent
import OfflineSite.Proofs.Text.Utf8

namespace OfflineSite.Asset

/-- A `?` stands for itself, and the texts around it are decoded apart. -/
theorem decodeLossy_query (target query : String) :
    Utf8.decodeLossy (Percent.decode (target ++ "?" ++ query)) =
      Utf8.decodeLossy (Percent.decode target) ++
        '?' :: Utf8.decodeLossy (Percent.decode query) := by
  have bytes : Utf8.encode (target ++ "?" ++ query).toList =
      Utf8.encode target.toList ++ '?'.toUInt8 :: Utf8.encode query.toList := by
    simp only [Utf8.encode, String.toList_append, List.flatMap_append, List.append_assoc]
    rfl
  have noDigit : Percent.digit? '?'.toUInt8 = none := by decide
  rw [Percent.decode, bytes, Percent.decodeBytes_append noDigit (by decide),
    Utf8.decodeLossy_append (by decide)]
  rfl

theorem requestPath_query (target query : String) :
    requestPath (target ++ "?" ++ query) = requestPath target := by
  have cut (front rest : List Char) :
      (front ++ '?' :: rest).takeWhile (· != '?') = front.takeWhile (· != '?') := by
    rw [List.takeWhile_append, List.takeWhile_cons_of_neg (by simp), List.append_nil]
    split
    · next whole => exact ((List.takeWhile_sublist _).eq_of_length whole).symm
    · rfl
  rw [requestPath, decodeLossy_query, cut, requestPath]

theorem not_mem_requestPath (target : String) : '?' ∉ (requestPath target).toList := by
  intro inside
  rw [requestPath, String.toList_ofList] at inside
  have passes := List.mem_takeWhile_imp inside
  simp at passes

/-- What follows a `?` in a target changes neither the path that is read off it nor the answer,
whatever the file system and the settings are; and no path holds a `?`, not even an escaped one. -/
theorem query_ignored (target query : String) :
    requestPath (target ++ "?" ++ query) = requestPath target ∧
    (∀ (settings : Settings) (files : FileSystem),
      respond settings files (target ++ "?" ++ query) = respond settings files target) ∧
    '?' ∉ (requestPath target).toList := by
  refine ⟨requestPath_query target query, fun settings files => ?_, not_mem_requestPath target⟩
  unfold respond
  rw [requestPath_query]

-- The bytes on the two sides of the question mark would make one character.
example : requestPath "/caf%C3?%A9" = "/caf\uFFFD" := by decide +kernel

end OfflineSite.Asset

import OfflineSite.Proofs.Json.Literal
import OfflineSite.Proofs.Path.Extension
import OfflineSite.Script

namespace OfflineSite

/-- Lines that are each ended are found again where they end. -/
theorem Split.pieces_flatMap {α : Type} [BEq α] [LawfulBEq α] {separator : α}
    {lines : List (List α)} (free : ∀ line ∈ lines, separator ∉ line) :
    pieces (· == separator) (lines.flatMap (· ++ [separator])) = lines ++ [[]] := by
  induction lines with
  | nil => rfl
  | cons line lines ih =>
    have single : pieces (· == separator) line = [line] :=
      pieces_eq_singleton fun c inside => beq_eq_false_iff_ne.mpr fun same =>
        free line List.mem_cons_self (same ▸ inside)
    have later := ih fun other listed => free other (List.mem_cons_of_mem line listed)
    rw [List.flatMap_cons, List.append_assoc, List.singleton_append,
      @pieces_append _ (· == separator) separator BEq.rfl, single, later, List.singleton_append,
      List.cons_append]

namespace Script

open Json

/-- The lines of the script as newlines divide it. The last of them is empty. -/
def dividedLines (config : OfflineConfig) : List (List Char) :=
  Split.pieces (· == '\n') (text config).toList

/-- Lines that are given as text are checked by their characters, not by the bytes of these. -/
theorem newline_not_mem_ofList {line : List Char} (free : '\n' ∉ line) :
    '\n' ∉ (String.ofList line).toList := by
  rwa [String.toList_ofList]

theorem newline_not_mem_fixed : ∀ line ∈ install ++ handlers, '\n' ∉ line.toList := by
  unfold install handlers
  repeat refine List.forall_mem_cons.mpr ⟨newline_not_mem_ofList (by decide +kernel), ?_⟩
  exact List.forall_mem_nil _

theorem newline_not_mem_line {config : OfflineConfig} {line : String}
    (listed : line ∈ lines config) : '\n' ∉ line.toList := by
  have assigned {before literal after : String} (front : '\n' ∉ before.toList)
      (middle : '\n' ∉ literal.toList) (back : '\n' ∉ after.toList) :
      '\n' ∉ (before ++ literal ++ after).toList := by
    simp [front, middle, back]
  simp only [lines, List.mem_append, List.mem_cons, List.not_mem_nil, or_false] at listed
  rcases listed with (((rfl | rfl | rfl | rfl) | static) | skipping) | static
  · decide
  · exact assigned (by decide) (newline_not_mem_literal _) (by decide)
  · exact assigned (by decide) (newline_not_mem_listLiteral _) (by decide)
  · exact assigned (by decide) (newline_not_mem_literal _) (by decide)
  · exact newline_not_mem_fixed line (List.mem_append_left handlers static)
  · split at skipping
    · obtain rfl := List.mem_singleton.mp skipping
      decide
    · cases skipping
  · exact newline_not_mem_fixed line (List.mem_append_right install static)

theorem dividedLines_eq (config : OfflineConfig) :
    dividedLines config = (lines config).map String.toList ++ [[]] := by
  have whole : (text config).toList =
      ((lines config).map String.toList).flatMap (· ++ ['\n']) := by
    simp [text, String.toList_join, List.flatMap_map]
  rw [dividedLines, whole, Split.pieces_flatMap]
  intro line listed
  obtain ⟨source, member, rfl⟩ := List.mem_map.mp listed
  exact newline_not_mem_line member

/-- A line that gives a constant of the script its value. -/
def assignment (constant literal : String) : List Char :=
  ("const " ++ constant ++ " = " ++ literal ++ ";").toList

/-- A line tells the literal it assigns. -/
theorem assignment_inj {constant literal other : String}
    (same : assignment constant literal = assignment constant other) : literal = other :=
  String.toList_inj.mp (by simpa [assignment] using same)

/-- The lines after those with literals. -/
def laterLines (skips : Bool) : List (List Char) :=
  (install ++ (if skips then ["  self.skipWaiting();"] else []) ++ handlers).map String.toList ++
    [[]]

/-- The lines of the script: the three that settings fill in, and others that they leave alone. -/
theorem dividedLines_split (config : OfflineConfig) :
    dividedLines config =
      "// Offline cache worker".toList ::
      assignment "CACHE_NAME" (literal config.version) ::
      assignment "PRECACHE" (listLiteral config.precache) ::
      assignment "OFFLINE_FALLBACK" (literal config.offlineFallback) ::
      laterLines config.skipWaitingOnInstall := by
  rw [dividedLines_eq]
  simp [lines, assignment, laterLines]

/-- Two scripts with a line for skipping the wait, or two without, differ in the three literals at
most. -/
theorem dividedLines_congr {config other : OfflineConfig}
    (skips : other.skipWaitingOnInstall = config.skipWaitingOnInstall) :
    (dividedLines other).length = (dividedLines config).length ∧
      ∀ i, i ≠ 1 → i ≠ 2 → i ≠ 3 → (dividedLines other)[i]? = (dividedLines config)[i]? := by
  simp only [dividedLines_split, skips]
  refine ⟨by simp only [List.length_cons], fun i version precache fallback => ?_⟩
  match i with
  | 0 => simp only [List.getElem?_cons_zero]
  | 1 => exact absurd rfl version
  | 2 => exact absurd rfl precache
  | 3 => exact absurd rfl fallback
  | _ + 4 => simp only [List.getElem?_cons_succ]

/-- The number of lines tells whether there is the line for skipping the wait. -/
theorem skipWaiting_eq_of_dividedLines {config other : OfflineConfig}
    (same : dividedLines config = dividedLines other) :
    config.skipWaitingOnInstall = other.skipWaitingOnInstall := by
  have counted := congrArg List.length same
  simp only [dividedLines_split, laterLines, List.length_cons, List.length_append,
    List.length_map] at counted
  cases mine : config.skipWaitingOnInstall <;> cases theirs : other.skipWaitingOnInstall <;>
    simp [mine, theirs] at counted ⊢

/-- Settings enter the script as three literals, each closed on its own line, which say what was set
and nothing else; the other lines are those of every script that skips the wait alike. So scripts
are the same exactly if the settings that they are written for are. -/
theorem settings_enter_as_literals (config : OfflineConfig) :
    (∀ other : OfflineConfig, other.skipWaitingOnInstall = config.skipWaitingOnInstall →
      (dividedLines other).length = (dividedLines config).length ∧
        ∀ i, i ≠ 1 → i ≠ 2 → i ≠ 3 → (dividedLines other)[i]? = (dividedLines config)[i]?) ∧
    (∃ version precache fallback : String,
      (dividedLines config)[1]? = some ("const CACHE_NAME = " ++ version ++ ";").toList ∧
        Denotes readText version config.version ∧
      (dividedLines config)[2]? = some ("const PRECACHE = " ++ precache ++ ";").toList ∧
        Denotes readTexts precache config.precache ∧
      (dividedLines config)[3]? = some ("const OFFLINE_FALLBACK = " ++ fallback ++ ";").toList ∧
        Denotes readText fallback config.offlineFallback) ∧
    ∀ other : OfflineConfig, text config = text other ↔
      config.version = other.version ∧ config.precache = other.precache ∧
        config.offlineFallback = other.offlineFallback ∧
        config.skipWaitingOnInstall = other.skipWaitingOnInstall := by
  refine ⟨fun other skips => dividedLines_congr skips,
    ⟨literal config.version, listLiteral config.precache, literal config.offlineFallback, ?_⟩,
    fun other => ⟨fun same => ?_, fun ⟨version, precache, fallback, skips⟩ => ?_⟩⟩
  · simp only [dividedLines_split]
    exact ⟨rfl, denotes_literal _, rfl, denotes_listLiteral _, rfl, denotes_literal _⟩
  · have divided : dividedLines config = dividedLines other := by
      simp only [dividedLines, same]
    have skips := skipWaiting_eq_of_dividedLines divided
    simp only [dividedLines_split, List.cons.injEq] at divided
    obtain ⟨-, version, precache, fallback, -⟩ := divided
    exact ⟨(denotes_literal _).unique (assignment_inj version ▸ denotes_literal _),
      (denotes_listLiteral _).unique (assignment_inj precache ▸ denotes_listLiteral _),
      (denotes_literal _).unique (assignment_inj fallback ▸ denotes_literal _), skips⟩
  · simp only [text, lines, version, precache, fallback, skips]

/-- A version that closes its literal and its line, were it written as it is, adds no line. -/
theorem hostile_version_adds_no_line :
    (dividedLines { version := "v1\";\nself.registration.unregister();//" }).length =
      (dividedLines {}).length :=
  ((settings_enter_as_literals {}).1 { version := "v1\";\nself.registration.unregister();//" }
    rfl).1

end Script

end OfflineSite

import OfflineSite.Program

namespace OfflineSite

namespace Command

/-- A part that is taken in. The value of the option may be any text. -/
inductive Part where
  | proxy
  | script
  | config (path : String)
  deriving Repr, DecidableEq

namespace Part

def texts : Part → List String
  | proxy => ["offline"]
  | script => ["worker-script"]
  | config path => ["--config", path]

def mode? : Part → Option Mode
  | proxy => some .proxy
  | script => some .script
  | config _ => none

def path? : Part → Option String
  | config path => some path
  | _ => none

end Part

/-- The arguments that some parts make up. -/
def written (parts : List Part) : List String := parts.flatMap Part.texts

/-- Arguments that end the program before anything is loaded, how it ends and the number that it
returns. -/
inductive Decides : List String → Ending → UInt32 → Prop
  | help {text : String} {rest : List String} (asks : text = "-h" ∨ text = "--help") :
      Decides (text :: rest) .helped 0
  | unknown {text : String} {rest : List String}
      (stray : text ∉ ["offline", "worker-script", "--config", "-h", "--help"]) :
      Decides (text :: rest) (.misused (.unknownArgument text)) 1
  | missing : Decides ["--config"] (.misused .missingConfigPath) 1

end Command

/-- What is asked for after some parts: the last mode and the last configuration that were named. -/
def Invocation.after (invocation : Invocation) (parts : List Command.Part) : Invocation where
  mode := (parts.filterMap Command.Part.mode?).getLast?.getD invocation.mode
  configPath := (parts.filterMap Command.Part.path?).getLast?.or invocation.configPath

namespace Argument

theorem ofText_unknown {text : String}
    (stray : text ∉ ["offline", "worker-script", "--config", "-h", "--help"]) :
    ofText text = .unknown text := by
  simp only [List.mem_cons, List.not_mem_nil, or_false, not_or] at stray
  obtain ⟨proxy, script, config, short, long⟩ := stray
  simp [ofText, proxy, script, config, short, long]

theorem ofText_help {text : String} (asks : text = "-h" ∨ text = "--help") :
    ofText text = .help := by
  rcases asks with rfl | rfl <;> decide

theorem ofText_cases (text : String) :
    (text = "offline" ∧ ofText text = .mode .proxy) ∨
    (text = "worker-script" ∧ ofText text = .mode .script) ∨
    (text = "--config" ∧ ofText text = .config) ∨
    ((text = "-h" ∨ text = "--help") ∧ ofText text = .help) ∨
    (text ∉ ["offline", "worker-script", "--config", "-h", "--help"] ∧
      ofText text = .unknown text) := by
  by_cases known : text ∈ ["offline", "worker-script", "--config", "-h", "--help"]
  · simp only [List.mem_cons, List.not_mem_nil, or_false] at known
    rcases known with rfl | rfl | rfl | rfl | rfl <;> decide
  · exact Or.inr (Or.inr (Or.inr (Or.inr ⟨known, ofText_unknown known⟩)))

theorem eq_of_ofText_unknown {text other : String} (means : ofText text = .unknown other) :
    other = text := by
  rcases ofText_cases text with ⟨_, known⟩ | ⟨_, known⟩ | ⟨_, known⟩ | ⟨_, known⟩ | ⟨_, stray⟩
  · cases known.symm.trans means
  · cases known.symm.trans means
  · cases known.symm.trans means
  · cases known.symm.trans means
  · exact (unknown.inj (stray.symm.trans means)).symm

end Argument

namespace Command

section

variable {text : String} (invocation : Invocation) (rest : List String)

theorem scan_mode {mode : Mode} (means : Argument.ofText text = .mode mode) :
    scan invocation (text :: rest) = scan { invocation with mode } rest := by
  rw [scan.eq_def]
  simp only [means]

theorem scan_config (means : Argument.ofText text = .config) (path : String) :
    scan invocation (text :: path :: rest) =
      scan { invocation with configPath := some path } rest := by
  rw [scan.eq_def]
  simp only [means]

theorem scan_missing (means : Argument.ofText text = .config) :
    scan invocation [text] = misuse .missingConfigPath := by
  rw [scan.eq_def]
  simp only [means]

theorem scan_help (means : Argument.ofText text = .help) :
    scan invocation (text :: rest) = help := by
  rw [scan.eq_def]
  simp only [means]

theorem scan_unknown (means : Argument.ofText text = .unknown text) :
    scan invocation (text :: rest) = misuse (.unknownArgument text) := by
  rw [scan.eq_def]
  simp only [means]

end

/-- Parts are taken in one after the other, and nothing but the last of each kind counts. -/
theorem scan_written (parts : List Part) (invocation : Invocation) (rest : List String) :
    scan invocation (written parts ++ rest) = scan (invocation.after parts) rest := by
  induction parts generalizing invocation with
  | nil => rfl
  | cons part parts ih =>
    have onward : written (part :: parts) ++ rest = part.texts ++ (written parts ++ rest) := by
      simp [written]
    rw [onward]
    cases part with
    | proxy =>
      have step := scan_mode invocation (written parts ++ rest)
        (show Argument.ofText "offline" = .mode .proxy by decide)
      refine step.trans ((ih _).trans ?_)
      simp [Invocation.after, Part.mode?, Part.path?, List.getLast?_cons]
    | script =>
      have step := scan_mode invocation (written parts ++ rest)
        (show Argument.ofText "worker-script" = .mode .script by decide)
      refine step.trans ((ih _).trans ?_)
      simp [Invocation.after, Part.mode?, Part.path?, List.getLast?_cons]
    | config path =>
      have step := scan_config invocation (written parts ++ rest)
        (show Argument.ofText "--config" = .config by decide) path
      refine step.trans ((ih _).trans ?_)
      simp [Invocation.after, Part.mode?, Part.path?, List.getLast?_cons]

/-- Parts alone ask for the last mode and the last configuration among them. -/
theorem ofArguments_written (parts : List Part) :
    ofArguments (written parts) = .run ⟨(parts.filterMap Part.mode?).getLast?.getD .assets,
      (parts.filterMap Part.path?).getLast?⟩ := by
  have taken := scan_written parts {} []
  rwa [List.append_nil, scan, Invocation.after, Option.or_none] at taken

/-- Whatever the arguments are, they are parts and something that decides, or parts alone. -/
theorem exists_written (arguments : List String) :
    ∃ parts rest, arguments = written parts ++ rest ∧
      (rest = [] ∨ ∃ ending code, Decides rest ending code) := by
  induction length : arguments.length using Nat.strongRecOn generalizing arguments with
  | ind count ih =>
    -- A part in front leaves fewer arguments, which are parts and something that decides.
    have onward (part : Part) {later : List String} (fewer : later.length < count)
        (split : arguments = part.texts ++ later) :
        ∃ parts rest, arguments = written parts ++ rest ∧
          (rest = [] ∨ ∃ ending code, Decides rest ending code) := by
      obtain ⟨parts, rest, whole, decides⟩ := ih later.length fewer later rfl
      refine ⟨part :: parts, rest, ?_, decides⟩
      rw [split, whole]
      simp [written]
    cases arguments with
    | nil => exact ⟨[], [], rfl, Or.inl rfl⟩
    | cons text rest =>
      have longer : rest.length < count := by
        rw [← length]
        exact Nat.lt_succ_self _
      rcases Argument.ofText_cases text with ⟨rfl, _⟩ | ⟨rfl, _⟩ | ⟨rfl, _⟩ | ⟨asks, _⟩ | ⟨stray, _⟩
      · exact onward .proxy longer rfl
      · exact onward .script longer rfl
      · cases rest with
        | nil => exact ⟨[], _, rfl, Or.inr ⟨_, _, .missing⟩⟩
        | cons path later =>
          have shorter : later.length < count := Nat.lt_trans (Nat.lt_succ_self _) longer
          exact onward (.config path) shorter rfl
      · exact ⟨[], _, rfl, Or.inr ⟨_, _, .help asks⟩⟩
      · exact ⟨[], _, rfl, Or.inr ⟨_, _, .unknown stray⟩⟩

/-- What is left after the parts decides. -/
theorem ofArguments_of_decides (parts : List Part) {rest : List String} {ending : Ending}
    {code : UInt32} (decides : Decides rest ending code) :
    (ending = .helped ∧ code = 0 ∧ ofArguments (written parts ++ rest) = help) ∨
      ∃ fault, ending = .misused fault ∧ code = 1 ∧
        ofArguments (written parts ++ rest) = misuse fault := by
  rw [ofArguments, scan_written]
  cases decides with
  | help asks => exact Or.inl ⟨rfl, rfl, scan_help _ _ (Argument.ofText_help asks)⟩
  | unknown stray =>
    exact Or.inr ⟨_, rfl, rfl, scan_unknown _ _ (Argument.ofText_unknown stray)⟩
  | missing => exact Or.inr ⟨_, rfl, rfl, scan_missing _ (by decide)⟩

/-- What a turn of a scan by positions comes to. -/
inductive Next where
  /-- To go on from a position. -/
  | onward (position : Nat) (invocation : Invocation)
  | decided (command : Command)

/-- One turn of a scan that goes by positions, with the positions that it looks at. There is no
result if it looks past the end. -/
def turn (arguments : List String) (position : Nat) (invocation : Invocation) :
    Option (List Nat × Next) :=
  if position < arguments.length then
    arguments[position]?.bind fun text =>
      match Argument.ofText text with
      | .mode mode => some ([position], .onward (position + 1) { invocation with mode })
      | .config =>
        if position + 1 < arguments.length then
          arguments[position + 1]?.map fun path =>
            ([position, position + 1],
              .onward (position + 2) { invocation with configPath := some path })
        else some ([position], .decided (misuse .missingConfigPath))
      | .help => some ([position], .decided help)
      | .unknown text => some ([position], .decided (misuse (.unknownArgument text)))
  else some ([], .decided (run invocation))

/-- The turns of a scan from a position to its end, with the positions that they look at and what
they come to. -/
inductive Walk (arguments : List String) : Nat → Invocation → List Nat → Command → Prop
  | decided {position : Nat} {invocation : Invocation} {looked : List Nat} {command : Command}
      (turned : turn arguments position invocation = some (looked, .decided command)) :
      Walk arguments position invocation looked command
  | onward {position next : Nat} {invocation after : Invocation} {looked later : List Nat}
      {command : Command}
      (turned : turn arguments position invocation = some (looked, .onward next after))
      (walk : Walk arguments next after later command) :
      Walk arguments position invocation (looked ++ later) command

/-- A turn looks at the arguments that it consumes, one after the other, and at nothing else; what is
left is scanned to the same end. -/
theorem turn_cases {arguments : List String} {position : Nat} (inside : position ≤ arguments.length)
    (invocation : Invocation) :
    ∃ count, position + count ≤ arguments.length ∧
      ((∃ after, 0 < count ∧ turn arguments position invocation =
          some (List.range' position count, .onward (position + count) after) ∧
        scan invocation (arguments.drop position) = scan after (arguments.drop (position + count))) ∨
      turn arguments position invocation = some (List.range' position count,
        .decided (scan invocation (arguments.drop position)))) := by
  by_cases more : position < arguments.length
  · have front := List.drop_eq_getElem_cons more
    rw [turn, if_pos more, List.getElem?_eq_getElem more, Option.bind_some, front]
    cases means : Argument.ofText arguments[position] with
    | mode mode => exact ⟨1, more, Or.inl ⟨_, by decide, rfl, scan_mode _ _ means⟩⟩
    | config =>
      by_cases another : position + 1 < arguments.length
      · have value := List.drop_eq_getElem_cons another
        refine ⟨2, another, Or.inl ⟨_, by decide, ?_, (congrArg _ (congrArg _ value)).trans
          (scan_config _ _ means _)⟩⟩
        simp only [if_pos another, List.getElem?_eq_getElem another, Option.map_some]
        rfl
      · have none := List.drop_eq_nil_of_le (Nat.le_of_not_lt another)
        refine ⟨1, more, Or.inr ?_⟩
        simp only [if_neg another, none, scan_missing _ means]
        rfl
    | help => exact ⟨1, more, Or.inr (by rw [scan_help _ _ means]; rfl)⟩
    | unknown text =>
      obtain rfl : text = arguments[position] := Argument.eq_of_ofText_unknown means
      exact ⟨1, more, Or.inr (by rw [scan_unknown _ _ means]; rfl)⟩
  · have none := List.drop_eq_nil_of_le (Nat.le_of_not_lt more)
    refine ⟨0, inside, Or.inr ?_⟩
    rw [turn, if_neg more, none, scan]
    rfl

/-- A scan by positions ends, and with the same result. It looks at the arguments from its first
position on, as many as there are until it is decided, at each of them once. -/
theorem exists_walk {arguments : List String} {position : Nat}
    (inside : position ≤ arguments.length) (invocation : Invocation) :
    ∃ count, position + count ≤ arguments.length ∧
      Walk arguments position invocation (List.range' position count)
        (scan invocation (arguments.drop position)) := by
  induction left : arguments.length - position using Nat.strongRecOn
    generalizing position invocation with
  | ind some ih =>
    obtain ⟨count, within, ⟨after, positive, turned, same⟩ | turned⟩ := turn_cases inside invocation
    · have fewer : arguments.length - (position + count) < some := by omega
      obtain ⟨others, withinToo, walk⟩ := ih _ fewer within after rfl
      refine ⟨count + others, by omega, ?_⟩
      have split : List.range' position (count + others) =
          List.range' position count ++ List.range' (position + count) others :=
        List.range'_append_1.symm
      rw [split, same]
      exact .onward turned walk
    · exact ⟨count, within, .decided turned⟩

/-- There is but one way to take the turns of a scan. -/
theorem Walk.unique {arguments : List String} {position : Nat} {invocation : Invocation}
    {looked other : List Nat} {command result : Command}
    (walk : Walk arguments position invocation looked command)
    (again : Walk arguments position invocation other result) :
    looked = other ∧ command = result := by
  induction walk generalizing other result with
  | decided turned =>
    cases again with
    | decided turnedToo =>
      cases turned.symm.trans turnedToo
      exact ⟨rfl, rfl⟩
    | onward turnedToo _ => cases turned.symm.trans turnedToo
  | onward turned _ ih =>
    cases again with
    | decided turnedToo => cases turned.symm.trans turnedToo
    | onward turnedToo later =>
      cases turned.symm.trans turnedToo
      obtain ⟨rfl, rfl⟩ := ih later
      exact ⟨rfl, rfl⟩

end Command

/-- How the program ends once its work is done. -/
def Ending.ofResult : Except Failure String → Ending
  | .ok output => .finished output
  | .error cause => .failed cause

namespace Command

/-- The first argument that asks for help, is unknown or lacks its value decides, unless it is itself
a value, and nothing is loaded before that; if there is none, the last mode and the last
configuration are asked for, and that is what the program does. A scan by positions comes to the
same, looks at each argument at most once, in order, and never past the last. -/
theorem arguments_decide (arguments : List String) :
    (∃ parts rest, arguments = written parts ++ rest ∧
      (rest = [] ∨ ∃ ending code, Decides rest ending code)) ∧
    (∀ parts rest ending code, arguments = written parts ++ rest → Decides rest ending code →
      ending.code = code ∧ ∀ {m : Type → Type} [Monad m] (machine : Machine m),
        machine.run arguments = pure ending) ∧
    (∀ parts, arguments = written parts →
      ofArguments arguments = .run ⟨(parts.filterMap Part.mode?).getLast?.getD .assets,
        (parts.filterMap Part.path?).getLast?⟩) ∧
    (∀ parts, arguments = written parts →
      ∀ {m : Type → Type} [Monad m] [LawfulMonad m] (machine : Machine m),
        machine.run arguments = Ending.ofResult <$>
          (machine.perform ⟨(parts.filterMap Part.mode?).getLast?.getD .assets,
            (parts.filterMap Part.path?).getLast?⟩).run) ∧
    ∃ count, count ≤ arguments.length ∧ ∀ looked command,
      Walk arguments 0 {} looked command ↔
        looked = List.range count ∧ command = ofArguments arguments := by
  refine ⟨exists_written arguments, ?_, ?_, ?_, ?_⟩
  · rintro parts rest ending code rfl decides
    rcases ofArguments_of_decides parts decides with
      ⟨rfl, rfl, comes⟩ | ⟨fault, rfl, rfl, comes⟩
    · exact ⟨rfl, fun machine => by rw [Machine.run, comes]⟩
    · exact ⟨rfl, fun machine => by rw [Machine.run, comes]⟩
  · rintro parts rfl
    exact ofArguments_written parts
  · rintro parts rfl m _ _ machine
    rw [Machine.run, ofArguments_written, map_eq_pure_bind]
    exact bind_congr fun result => by cases result <;> rfl
  · obtain ⟨count, within, walk⟩ := exists_walk (Nat.zero_le arguments.length) {}
    rw [List.drop_zero, ← List.range_eq_range'] at walk
    refine ⟨count, by omega, fun looked command => ⟨fun other => ?_, ?_⟩⟩
    · exact other.unique walk
    · rintro ⟨rfl, rfl⟩
      exact walk

/-- A machine that breaks down at the first thing that is asked of it. -/
def brokenMachine : Machine Option where
  files := ⟨fun _ => none, fun _ => none, fun _ => none, fun _ _ => none, fun _ _ => none⟩
  environment := ⟨none, none, none⟩
  now := none
  log _ := none
  Listener := Unit
  listen _ _ := none
  serveAssets _ _ := none
  serveProxy _ _ _ := none

/-- Options as values: help is asked for only by the last but one argument, and in the other line the
option itself and the word for help are names of files. -/
theorem options_taken_as_values :
    (["--config", "-h", "offline", "--config", "--config", "--help", "--config"] =
        written [.config "-h", .proxy, .config "--config"] ++ ["--help", "--config"] ∧
      Decides ["--help", "--config"] .helped 0 ∧ Ending.helped.code = 0 ∧
      brokenMachine.run ["--config", "-h", "offline", "--config", "--config", "--help", "--config"] =
        some .helped) ∧
    ["worker-script", "--config", "--config", "offline", "--config", "-h"] =
      written [.script, .config "--config", .proxy, .config "-h"] ∧
    ofArguments ["worker-script", "--config", "--config", "offline", "--config", "-h"] =
      .run ⟨.proxy, some "-h"⟩ ∧
    brokenMachine.run ["worker-script", "--config", "--config", "offline", "--config", "-h"] =
      Ending.ofResult <$> (brokenMachine.perform ⟨.proxy, some "-h"⟩).run ∧
    ∃ count, count ≤ 6 ∧
      Walk ["worker-script", "--config", "--config", "offline", "--config", "-h"] 0 {}
        (List.range count) (.run ⟨.proxy, some "-h"⟩) := by
  have asks : Decides ["--help", "--config"] .helped 0 := .help (Or.inr rfl)
  obtain ⟨_, decided, _, _, _⟩ := arguments_decide
    ["--config", "-h", "offline", "--config", "--config", "--help", "--config"]
  obtain ⟨_, _, asked, performed, count, within, walk⟩ := arguments_decide
    ["worker-script", "--config", "--config", "offline", "--config", "-h"]
  obtain ⟨code, run⟩ := decided [.config "-h", .proxy, .config "--config"] _ _ _ rfl asks
  have scanned : ofArguments
      ["worker-script", "--config", "--config", "offline", "--config", "-h"] =
        .run ⟨.proxy, some "-h"⟩ :=
    asked [.script, .config "--config", .proxy, .config "-h"] rfl
  refine ⟨⟨rfl, asks, code, run brokenMachine⟩, rfl, scanned,
    performed [.script, .config "--config", .proxy, .config "-h"] rfl brokenMachine, count, within,
    (walk _ _).mpr ⟨rfl, scanned.symm⟩⟩

end Command

end OfflineSite

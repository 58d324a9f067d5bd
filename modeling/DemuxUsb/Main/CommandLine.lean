import Mathlib.Data.List.Basic

/-!
# The command line

The arguments are read from left to right: flags, a directory behind `-x`, and the path of one
capture. `Spelled` says which arguments stand for which words, and `optionsOf` what some words
ask for, whatever their order but for directories, of which the last counts.

* `parseArguments_exact`: the arguments are words up to where they are refused, and the options
  are those that the words ask for.
-/

namespace DemuxUsb.Main

/-! ## The loop -/

structure Options where
  verbose : Bool := false
  plists : Bool := false
  warnings : Bool := false
  extractDirectory : String := ""
  inputPath : String := ""
  deriving DecidableEq

/-- How the program ends before a file is opened: after `--help`, after arguments that it
cannot use, and after an option that it does not know. -/
inductive Refusal where
  | help
  | usage
  | unknownOption (argument : String)
  deriving DecidableEq

/-- `argument[0] == '-'` -/
def startsWithDash (argument : String) : Bool := argument.toList.head? == some '-'

/-- The loop of `main` over the arguments. -/
def parseLoop (o : Options) : List String → Except Refusal Options
  | [] => .ok o
  | argument :: rest =>
    if argument = "-v" ∨ argument = "--verbose" then parseLoop { o with verbose := true } rest
    else if argument = "-p" ∨ argument = "--plists" then parseLoop { o with plists := true } rest
    else if argument = "-w" ∨ argument = "--warnings" then
      parseLoop { o with warnings := true } rest
    else if argument = "-x" ∨ argument = "--extract" then
      match rest with
      | [] => .error .usage
      | directory :: rest => parseLoop { o with extractDirectory := directory } rest
    else if argument = "-h" ∨ argument = "--help" then .error .help
    else if argument ≠ "" ∧ startsWithDash argument = true then .error (.unknownOption argument)
    else if o.inputPath = "" then parseLoop { o with inputPath := argument } rest
    else .error .usage

/-- The check behind the loop. -/
def checkPath (o : Options) : Except Refusal Options :=
  if o.inputPath = "" then .error .usage else .ok o

def parseArguments (arguments : List String) : Except Refusal Options :=
  (parseLoop {} arguments).bind checkPath

/-! ## Words -/

inductive Word where
  | verbose
  | plists
  | warnings
  | extract (directory : String)
  | path (text : String)
  deriving DecidableEq

namespace Word

/-- A word and the arguments that stand for it. -/
inductive Spells : Word → List String → Prop where
  | verbose {a : String} (h : a = "-v" ∨ a = "--verbose") : Spells .verbose [a]
  | plists {a : String} (h : a = "-p" ∨ a = "--plists") : Spells .plists [a]
  | warnings {a : String} (h : a = "-w" ∨ a = "--warnings") : Spells .warnings [a]
  | extract {a : String} (h : a = "-x" ∨ a = "--extract") (directory : String) :
      Spells (.extract directory) [a, directory]
  | path {a : String} (h : startsWithDash a = false) : Spells (.path a) [a]

def directory? : Word → Option String
  | extract directory => some directory
  | _ => none

def path? : Word → Option String
  | path text => some text
  | _ => none

end Word

inductive Spelled : List Word → List String → Prop where
  | nil : Spelled [] []
  | cons {w : Word} {ws : List Word} {s args : List String} (hw : w.Spells s)
      (hws : Spelled ws args) : Spelled (w :: ws) (s ++ args)

def pathsOf (words : List Word) : List String := words.filterMap Word.path?

/-- What the words ask for. -/
def optionsOf (words : List Word) : Options where
  verbose := decide (.verbose ∈ words)
  plists := decide (.plists ∈ words)
  warnings := decide (.warnings ∈ words)
  extractDirectory := (words.filterMap Word.directory?).getLast?.getD ""
  inputPath := (pathsOf words).getLast?.getD ""

/-- An empty path is as good as none, and then another one may follow. -/
def OnePath (words : List Word) : Prop := ∀ p ∈ (pathsOf words).dropLast, p = ""

def knownOptions : List String :=
  ["-v", "--verbose", "-p", "--plists", "-w", "--warnings", "-x", "--extract", "-h", "--help"]

/-- Where words end, with the options so far, and what becomes of the rest. -/
inductive Stops (o : Options) : List String → Except Refusal Options → Prop where
  | accepted (h : o.inputPath ≠ "") : Stops o [] (.ok o)
  | noPath (h : o.inputPath = "") : Stops o [] (.error .usage)
  | secondPath {a : String} {rest : List String} (h : startsWithDash a = false)
      (hpath : o.inputPath ≠ "") : Stops o (a :: rest) (.error .usage)
  | noDirectory {a : String} (h : a = "-x" ∨ a = "--extract") : Stops o [a] (.error .usage)
  | help {a : String} {rest : List String} (h : a = "-h" ∨ a = "--help") :
      Stops o (a :: rest) (.error .help)
  | unknown {a : String} {rest : List String} (hdash : startsWithDash a = true)
      (h : a ∉ knownOptions) : Stops o (a :: rest) (.error (.unknownOption a))

/-! ## One word -/

/-- The options with one more word. -/
def Options.take (o : Options) : Word → Options
  | .verbose => { o with verbose := true }
  | .plists => { o with plists := true }
  | .warnings => { o with warnings := true }
  | .extract directory => { o with extractDirectory := directory }
  | .path text => { o with inputPath := text }

theorem optionsOf_concat (words : List Word) (w : Word) :
    optionsOf (words ++ [w]) = (optionsOf words).take w := by
  cases w <;> simp [optionsOf, pathsOf, Options.take, Word.directory?, Word.path?]

theorem OnePath.of_append {words more : List Word} (h : OnePath (words ++ more)) :
    OnePath words := by
  unfold OnePath pathsOf at h
  rw [List.filterMap_append] at h
  intro p hp
  by_cases hmore : more.filterMap Word.path? = []
  · rw [hmore, List.append_nil] at h
    exact h p hp
  · rw [List.dropLast_append_of_ne_nil hmore] at h
    exact h p (List.mem_append_left _ ((List.dropLast_prefix _).subset hp))

/-- A path may follow only empty ones. -/
theorem onePath_concat {words : List Word} (h : OnePath words) (w : Word) :
    OnePath (words ++ [w]) ↔ (w.path?.isSome = true → (optionsOf words).inputPath = "") := by
  have hpaths : pathsOf (words ++ [w]) = pathsOf words ++ w.path?.toList := by
    unfold pathsOf
    rw [List.filterMap_append]
    cases hw : w.path? <;> simp [hw]
  have hinput : (optionsOf words).inputPath = (pathsOf words).getLast?.getD "" := rfl
  unfold OnePath at h ⊢
  rw [hpaths, hinput]
  cases w.path? with
  | none => simpa using h
  | some p =>
    rw [Option.toList_some, List.dropLast_concat]
    -- all but the last path are known to be empty
    cases hlast : (pathsOf words).getLast? with
    | none => simp [List.getLast?_eq_none_iff.mp hlast]
    | some last =>
      obtain ⟨earlier, hearlier⟩ := List.getLast?_eq_some_iff.mp hlast
      rw [hearlier, List.dropLast_concat] at h
      rw [hearlier]
      constructor
      · intro hall _
        exact hall last (by simp)
      · intro hempty q hq
        rcases List.mem_append.mp hq with hq | hq
        · exact h q hq
        · rw [List.mem_singleton.mp hq]
          exact hempty rfl

/-! ## One round -/

theorem notMem_knownOptions {a : String} (h : startsWithDash a = false) : a ∉ knownOptions := by
  have hall : knownOptions.all startsWithDash = true := by decide
  intro hknown
  rw [List.all_eq_true.mp hall a hknown] at h
  cases h

/-- An argument that is no known option. -/
theorem parseLoop_of_unknown {a : String} (h : a ∉ knownOptions) (o : Options)
    (rest : List String) :
    parseLoop o (a :: rest) =
      if a ≠ "" ∧ startsWithDash a = true then .error (.unknownOption a)
      else if o.inputPath = "" then parseLoop { o with inputPath := a } rest
      else .error .usage := by
  unfold knownOptions at h
  simp only [List.mem_cons, List.not_mem_nil, or_false, not_or] at h
  cases rest with
  | nil => simp only [parseLoop, h, or_self, if_false]
  | cons b rest => simp only [parseLoop, h, or_self, if_false]

/-- **Step lemma.** A word is read, whatever comes behind it. -/
theorem parseLoop_word {w : Word} {s : List String} (hw : w.Spells s) {o : Options}
    (h : w.path?.isSome = true → o.inputPath = "") (rest : List String) :
    parseLoop o (s ++ rest) = parseLoop (o.take w) rest := by
  cases hw with
  | verbose hflag => rcases hflag with rfl | rfl <;> cases rest <;> rfl
  | plists hflag => rcases hflag with rfl | rfl <;> cases rest <;> rfl
  | warnings hflag => rcases hflag with rfl | rfl <;> cases rest <;> rfl
  | extract hflag directory => rcases hflag with rfl | rfl <;> rfl
  | path hdash =>
    rw [List.singleton_append, parseLoop_of_unknown (notMem_knownOptions hdash), if_neg (by simp [hdash]),
      if_pos (h rfl)]
    rfl

/-- **Run lemma.** -/
theorem parseLoop_words {words : List Word} {spelled : List String} (h : Spelled words spelled)
    {before : List Word} (hone : OnePath (before ++ words)) (rest : List String) :
    parseLoop (optionsOf before) (spelled ++ rest) =
      parseLoop (optionsOf (before ++ words)) rest := by
  induction h generalizing before with
  | nil => rw [List.append_nil, List.nil_append]
  | @cons w ws s args hw _ ih =>
    rw [List.append_cons] at hone
    have hword := (onePath_concat hone.of_append.of_append w).mp hone.of_append
    rw [List.append_assoc, parseLoop_word hw hword, ← optionsOf_concat, ih hone, ← List.append_cons]

/-! ## The end -/

theorem Stops.eq {o : Options} {rest : List String} {r : Except Refusal Options}
    (h : Stops o rest r) : (parseLoop o rest).bind checkPath = r := by
  cases h with
  | accepted h => exact if_neg h
  | noPath h => exact if_pos h
  | @secondPath a rest hdash hpath =>
    rw [parseLoop_of_unknown (notMem_knownOptions hdash), if_neg (by simp [hdash]), if_neg hpath]
    rfl
  | noDirectory h => rcases h with rfl | rfl <;> rfl
  | @help a rest h => rcases h with rfl | rfl <;> cases rest <;> rfl
  | @unknown a rest hdash h =>
    have hne : a ≠ "" := by
      rintro rfl
      cases hdash
    rw [parseLoop_of_unknown h, if_pos ⟨hne, hdash⟩]
    rfl

/-- Arguments begin with a word, unless this is where they stop. -/
theorem stops_or_word (o : Options) (arguments : List String) :
    (∃ r, Stops o arguments r) ∨ ∃ (w : Word) (s rest : List String), w.Spells s ∧
      (w.path?.isSome = true → o.inputPath = "") ∧ arguments = s ++ rest ∧
        rest.length < arguments.length := by
  cases arguments with
  | nil =>
    by_cases hpath : o.inputPath = ""
    · exact Or.inl ⟨_, .noPath hpath⟩
    · exact Or.inl ⟨_, .accepted hpath⟩
  | cons a rest =>
    have hrest : rest.length < (a :: rest).length := Nat.lt_succ_self _
    cases hdash : startsWithDash a with
    | false =>
      by_cases hpath : o.inputPath = ""
      · exact Or.inr ⟨_, [a], rest, .path hdash, fun _ => hpath, rfl, hrest⟩
      · exact Or.inl ⟨_, .secondPath hdash hpath⟩
    | true =>
      by_cases hknown : a ∈ knownOptions
      swap
      · exact Or.inl ⟨_, .unknown hdash hknown⟩
      have hcases : (a = "-v" ∨ a = "--verbose") ∨ (a = "-p" ∨ a = "--plists") ∨
          (a = "-w" ∨ a = "--warnings") ∨ (a = "-x" ∨ a = "--extract") ∨
            (a = "-h" ∨ a = "--help") := by
        simpa [knownOptions, or_assoc] using hknown
      rcases hcases with hverbose | hplists | hwarnings | hextract | hhelp
      · exact Or.inr ⟨_, [a], rest, .verbose hverbose, (nomatch ·), rfl, hrest⟩
      · exact Or.inr ⟨_, [a], rest, .plists hplists, (nomatch ·), rfl, hrest⟩
      · exact Or.inr ⟨_, [a], rest, .warnings hwarnings, (nomatch ·), rfl, hrest⟩
      · cases rest with
        | nil => exact Or.inl ⟨_, .noDirectory hextract⟩
        | cons directory rest =>
          exact Or.inr ⟨_, [a, directory], rest, .extract hextract directory, (nomatch ·), rfl,
            Nat.lt_succ_of_lt (Nat.lt_succ_self _)⟩
      · exact Or.inl ⟨_, .help hhelp⟩

/-- Every list of arguments is words up to where they stop. -/
theorem exists_words (arguments : List String) (before : List Word) (hbefore : OnePath before) :
    ∃ words spelled rest r, Spelled words spelled ∧ OnePath (before ++ words) ∧
      arguments = spelled ++ rest ∧ Stops (optionsOf (before ++ words)) rest r := by
  induction hlength : arguments.length using Nat.strongRecOn generalizing arguments before with
  | ind n ih =>
    rcases stops_or_word (optionsOf before) arguments with
      ⟨r, hstops⟩ | ⟨w, s, rest, hspells, hpath, rfl, hlt⟩
    · rw [← List.append_nil before] at hbefore hstops
      exact ⟨[], [], arguments, r, .nil, hbefore, rfl, hstops⟩
    · obtain ⟨words, spelled, rest', r, hspelled, hone, hrest, hstops⟩ :=
        ih rest.length (hlength ▸ hlt) rest (before ++ [w]) ((onePath_concat hbefore w).mpr hpath) rfl
      rw [← List.append_cons] at hone hstops
      refine ⟨w :: words, s ++ spelled, rest', r, .cons hspells hspelled, hone, ?_, hstops⟩
      rw [hrest, List.append_assoc]

/-- **Exactness.** The arguments are words up to where they stop, and what becomes of them is
decided there, by the options that the words ask for. -/
theorem parseArguments_exact (arguments : List String) (r : Except Refusal Options) :
    parseArguments arguments = r ↔ ∃ words spelled rest, Spelled words spelled ∧ OnePath words ∧
      arguments = spelled ++ rest ∧ Stops (optionsOf words) rest r := by
  have hread : ∀ {words spelled rest r}, Spelled words spelled → OnePath words →
      Stops (optionsOf words) rest r → parseArguments (spelled ++ rest) = r := by
    intro words spelled rest r hspelled hone hstops
    have hloop := @parseLoop_words words spelled hspelled [] hone rest
    unfold parseArguments
    rw [show ({} : Options) = optionsOf [] from rfl, hloop]
    exact hstops.eq
  constructor
  · rintro rfl
    obtain ⟨words, spelled, rest, r, hspelled, hone, rfl, hstops⟩ :=
      exists_words arguments [] (fun p hp => absurd hp List.not_mem_nil)
    exact ⟨words, spelled, rest, hspelled, hone, rfl, hread hspelled hone hstops ▸ hstops⟩
  · rintro ⟨words, spelled, rest, hspelled, hone, rfl, hstops⟩
    exact hread hspelled hone hstops

/-- The directory may look like an option. -/
example : parseArguments ["-v", "", "a.pcap", "-x", "-h"] =
    .ok { verbose := true, extractDirectory := "-h", inputPath := "a.pcap" } := rfl

end DemuxUsb.Main

import EmulatorHost.Proofs.Config.Environment

/-!
# Paths below the home directory

A path in the settings that begins with a tilde and a separator is joined to the home directory, less
those two. What is left is mostly relative, and then the path lies below the home directory. Where
another separator follows, what is left is absolute, and joining it leaves nothing of the home
directory.
-/

namespace EmulatorHost.Config

variable {home : Option String} {config : Config} {env : Environment} {written resolved rest : String}

inductive Resolves (home : Option String) (config : Config) (env : Environment) :
    String → String → Prop where
  -- A path that is written in the settings or in the environment, and what it is resolved to.
  | sdkRoot : Resolves home config env config.sdkRoot (config.sdkRootPath home)
  | location (location : Location) (hown : location.own config ≠ "") :
      Resolves home config env (location.own config) (location.path home config)
  | file {written : String} (hset : env.nonBlank? "DROIDAGENT_CONFIG" = some written) :
      Resolves home config env written (filePath home env)

theorem Resolves.eq_expandUser (hresolves : Resolves home config env written resolved) :
    resolved = Path.expandUser home written := by
  cases hresolves with
  | sdkRoot =>
      rfl
  | location location hown =>
      exact Location.path_of_own hown
  | file hset =>
      rw [filePath, hset]

theorem expandUser_tilde (home rest : String) :
    Path.expandUser (some home) ("~/" ++ rest) = Path.join home rest := by
  have htext : ("~/" ++ rest).toList = '~' :: '/' :: rest.toList := by
    rw [String.toList_append]
    rfl
  simp only [Path.expandUser, htext, String.ofList_toList]

/-- A path that begins with a tilde and a separator lies below the home directory exactly if no
separator follows at once, or what follows lies there by itself. It goes on from the home directory
then, by the names that follow; otherwise it is what follows, and nothing is left of the home
directory. -/
theorem lies_below_home_iff (home : String) (config : Config) (env : Environment)
    (rest resolved : String) (hresolves : Resolves (some home) config env ("~/" ++ rest) resolved) :
    (Path.components home.toList <+: Path.components resolved.toList ↔
        Path.isAbsolute rest.toList = false ∨
          Path.components home.toList <+: Path.components rest.toList) ∧
      (Path.isAbsolute rest.toList = false → home ≠ "" →
        Path.components resolved.toList =
          Path.components home.toList ++ (Path.names rest.toList).map .name) ∧
      (Path.isAbsolute rest.toList = true → resolved = rest) := by
  have hjoin : resolved = Path.join home rest := by
    rw [hresolves.eq_expandUser, expandUser_tilde]
  have hchars : resolved.toList = Path.joinChars home.toList rest.toList := by
    rw [hjoin, Path.join, String.toList_ofList]
  have hgoesOn : Path.isAbsolute rest.toList = false → home ≠ "" →
      Path.components resolved.toList =
        Path.components home.toList ++ (Path.names rest.toList).map .name := by
    intro hrelative hsome
    rw [hchars]
    refine Path.components_joinChars hrelative ?_
    simpa using hsome
  have hstartsAgain : Path.isAbsolute rest.toList = true → resolved = rest := by
    intro habsolute
    rw [hjoin, Path.join, Path.joinChars_of_absolute habsolute, String.ofList_toList]
  refine ⟨?_, hgoesOn, hstartsAgain⟩
  cases hrest : Path.isAbsolute rest.toList with
  | true =>
      rw [hstartsAgain hrest]
      simp
  | false =>
      refine iff_of_true ?_ (Or.inl rfl)
      by_cases hsome : home = ""
      · -- An empty home directory has no components at all.
        subst hsome
        exact List.nil_prefix
      · rw [hgoesOn hrest hsome]
        exact List.prefix_append _ _

/-- The environment names a settings file below the home directory. -/
theorem lies_below_home_iff_namedFile :
    Resolves (some "/home/user") default (fun _ => some "~/host/agent.json") "~/host/agent.json"
        "/home/user/host/agent.json" ∧
      Path.components "/home/user".toList <+:
        Path.components "/home/user/host/agent.json".toList := by
  have hresolves : Resolves (some "/home/user") default (fun _ => some "~/host/agent.json")
      "~/host/agent.json" "/home/user/host/agent.json" :=
    .file (by decide)
  exact ⟨hresolves, (lies_below_home_iff "/home/user" default _ "host/agent.json" _ hresolves).1.mpr
    (Or.inl (by decide))⟩

/-- With the separator doubled, the path of the virtual devices leaves the home directory. -/
theorem doubled_separator_leaves_home :
    Resolves (some "/home/user") { avdHome := "~//etc" } (fun _ => none) "~//etc" "/etc" ∧
      ¬ Path.components "/home/user".toList <+: Path.components "/etc".toList := by
  have hresolves : Resolves (some "/home/user") { avdHome := "~//etc" } (fun _ => none)
      "~//etc" "/etc" :=
    .location .avdHome (by decide)
  exact ⟨hresolves, by decide⟩

end EmulatorHost.Config

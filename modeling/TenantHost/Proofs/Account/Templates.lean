import TenantHost.Account.Strategy
import TenantHost.Proofs.Account.Steps
import TenantHost.Proofs.Command.Line
/-!
# The arguments of creation steps

A creation step is composed as a line and cut into arguments again. What comes out is its template,
with the arguments of the user's name and of the group in their places.
-/

namespace TenantHost.Platform

open Command Text

/-- The commands that create an account, with the arguments of its name and of its group in
place. -/
def creationArguments (platform : Platform) (user group : List String) : List (List String) :=
  match platform with
  | .macos =>
    [["sudo", "sysadminctl", "-addUser"] ++ user ++ ["-password"] ++ user,
      ["sudo", "dseditgroup", "-o", "edit", "-a"] ++ user ++ ["-t", "user"] ++ group]
  | .windows =>
    [["net", "user"] ++ user ++ ["/add"], ["net", "localgroup"] ++ group ++ user ++ ["/add"]]
  | _ => [["sudo", "useradd", "-g"] ++ group ++ user]

/-- A text that ends in a blank still does so behind another one. -/
theorem getLast_append_isBlank (a : String) {b : String}
    (h : b.toList.getLast?.any isBlank = true) :
    (a ++ b).toList.getLast?.any isBlank = true := by
  obtain ⟨w, hlast, hw⟩ := (Option.any_eq_true _ _).mp h
  rw [String.toList_append, List.getLast?_append, hlast]
  exact hw

/-- A name between two fixed texts, with blanks where they meet. -/
theorem tokenize_between {before after : String}
    (hbefore : before.toList.getLast?.any isBlank = true)
    (hafter : after.toList.head?.any isBlank = true) (name : String) :
    tokenize (before ++ name ++ after) = tokenize before ++ tokenize name ++ tokenize after := by
  rw [tokenize_append_of_head _ hafter, tokenize_append_of_getLast hbefore]

theorem tokenize_useradd (user group : String) :
    tokenize ("sudo useradd -g " ++ group ++ " " ++ user)
      = ["sudo", "useradd", "-g"] ++ tokenize group ++ tokenize user := by
  rw [tokenize_append_of_getLast (getLast_append_isBlank _ (by decide)),
    tokenize_between (by decide) (by decide)]
  simp [show tokenize "sudo useradd -g " = ["sudo", "useradd", "-g"] from by decide,
    show tokenize " " = [] from by decide]

/-- **A step is its template, with the arguments of the name and of the group in their places.** -/
theorem map_argv_creationSteps (platform : Platform) (user group : String) :
    (platform.creationSteps user group).map Step.argv
      = platform.creationArguments (tokenize user) (tokenize group) := by
  cases platform with
  | macos =>
    have hcreate : tokenize ("sudo sysadminctl -addUser " ++ user ++ " -password " ++ user)
        = ["sudo", "sysadminctl", "-addUser"] ++ tokenize user ++ ["-password"]
          ++ tokenize user := by
      rw [tokenize_append_of_getLast (getLast_append_isBlank _ (by decide)),
        tokenize_between (by decide) (by decide)]
      rfl
    have hjoin : tokenize ("sudo dseditgroup -o edit -a " ++ user ++ " -t user " ++ group)
        = ["sudo", "dseditgroup", "-o", "edit", "-a"] ++ tokenize user ++ ["-t", "user"]
          ++ tokenize group := by
      rw [tokenize_append_of_getLast (getLast_append_isBlank _ (by decide)),
        tokenize_between (by decide) (by decide)]
      rfl
    simp only [creationSteps, List.map_cons, List.map_nil, Step.argv, hcreate, hjoin,
      creationArguments]
  | windows =>
    have hcreate : tokenize ("net user " ++ user ++ " /add")
        = ["net", "user"] ++ tokenize user ++ ["/add"] := by
      rw [tokenize_between (by decide) (by decide)]
      rfl
    have hjoin : tokenize ("net localgroup " ++ group ++ " " ++ user ++ " /add")
        = ["net", "localgroup"] ++ tokenize group ++ tokenize user ++ ["/add"] := by
      rw [tokenize_append_of_head _ (by decide),
        tokenize_append_of_getLast (getLast_append_isBlank _ (by decide)),
        tokenize_between (by decide) (by decide)]
      simp [show tokenize " " = [] from by decide,
        show tokenize "net localgroup " = ["net", "localgroup"] from by decide,
        show tokenize " /add" = ["/add"] from by decide]
    simp only [creationSteps, List.map_cons, List.map_nil, Step.argv, hcreate, hjoin,
      creationArguments]
  | linux | other =>
    simp only [creationSteps, List.map_cons, List.map_nil, Step.argv, tokenize_useradd,
      creationArguments]

/-- No creation step is without arguments. -/
theorem argv_ne_nil_of_mem_creationSteps {platform : Platform} {user group : String} {step : Step}
    (h : step ∈ platform.creationSteps user group) : step.argv ≠ [] := by
  have hmem : step.argv ∈ platform.creationArguments (tokenize user) (tokenize group) := by
    rw [← map_argv_creationSteps]
    exact List.mem_map_of_mem h
  have hcons : ∀ argv ∈ platform.creationArguments (tokenize user) (tokenize group),
      argv ≠ [] := by
    cases platform <;> simp [creationArguments]
  exact hcons _ hmem

theorem creationSteps_ne_nil (platform : Platform) (user group : String) :
    platform.creationSteps user group ≠ [] := by
  cases platform <;> exact List.cons_ne_nil _ _

end TenantHost.Platform

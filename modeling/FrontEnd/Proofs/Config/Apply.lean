import FrontEnd.Config

namespace FrontEnd

theorem foldl_append_items {S α : Type} (get : S → List α) (put : S → List α → S)
    (put_get : ∀ state, put state (get state) = state)
    (get_put : ∀ state list, get (put state list) = list)
    (put_put : ∀ state first second, put (put state first) second = put state second)
    (state : S) (items : List α) :
    items.foldl (fun state item => put state (get state ++ [item])) state = put state (get state ++ items) := by
  induction items generalizing state with
  | nil => rw [List.foldl_nil, List.append_nil, put_get]
  | cons item items ih =>
    rw [List.foldl_cons, ih, get_put, put_put, List.append_assoc, List.singleton_append]

namespace Options

theorem foldl_addDefine (options : Options) (defines : List String) :
    defines.foldl addDefine options = { options with defines := options.defines ++ defines } :=
  foldl_append_items Options.defines (fun options defines => { options with defines })
    (fun _ => rfl) (fun _ _ => rfl) (fun _ _ _ => rfl) options defines

theorem foldl_addUndefine (options : Options) (undefines : List String) :
    undefines.foldl addUndefine options = { options with undefines := options.undefines ++ undefines } :=
  foldl_append_items Options.undefines (fun options undefines => { options with undefines })
    (fun _ => rfl) (fun _ _ => rfl) (fun _ _ _ => rfl) options undefines

theorem foldl_addIncludeDir (options : Options) (directories : List Path) :
    directories.foldl addIncludeDir options =
      { options with includeDirs := options.includeDirs ++ directories } :=
  foldl_append_items Options.includeDirs (fun options includeDirs => { options with includeDirs })
    (fun _ => rfl) (fun _ _ => rfl) (fun _ _ _ => rfl) options directories

end Options

theorem Config.apply_eq (config : Config) (options : Options) :
    config.apply options = { options with
      language := config.parser.language.getD options.language
      rtti := config.parser.rtti.getD options.rtti
      abi := config.parser.abi.getD options.abi
      target := config.parser.target <|> options.target
      defines := options.defines ++ config.parser.defines
      includeDirs := options.includeDirs ++ config.parser.includeDirs } := by
  simp only [apply, Options.foldl_addDefine, Options.foldl_addIncludeDir]
  cases triple : config.parser.target <;> simp [later]

end FrontEnd

/-!
# Refused settings

Why the text of a setting is refused.
-/

namespace JobGraph

/-- Why the text of a setting is refused. -/
inductive SettingError where
  | splitMode (text : String)
  | stageoutStep (text : String)
  | noStageoutStep
  | throttle (text : String)
deriving DecidableEq, Repr

/-- The message of a refusal. -/
def SettingError.message : SettingError → String
  | .splitMode text =>
    s!"unsupported split algorithm: {text}"
      ++ " (expected \"FileBased\", \"EventBased\" or \"LumiBased\")"
  | .stageoutStep text =>
    s!"invalid stage-out step: {text} (expected \"local\" or \"remote\")"
  | .noStageoutStep => "stage-out policy must name at least one step"
  | .throttle text =>
    s!"invalid max_post: {text} (expected \"auto\", \"unbounded\" or a positive integer)"

end JobGraph

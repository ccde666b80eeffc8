import SensorTasks.Schedule.Cron

/-!
When a task runs again: a cron pattern, or else an interval longer than zero.
-/

namespace SensorTasks

inductive SchedulePattern where
  | cron (c : Cron)
  | interval (i : Interval)
  deriving DecidableEq

inductive PatternError where
  | empty
  | noTime
  /-- The text is neither of the two, for one reason each. -/
  | neither (text : String) (cron : CronError) (interval : IntervalError)
  deriving DecidableEq

def PatternError.message : PatternError → String
  | .empty => "pattern must not be empty"
  | .noTime => "interval must be longer than zero"
  | .neither text cron interval =>
    "'" ++ text ++ "' is neither a cron expression (" ++ cron.message ++ ") nor an interval (" ++
      interval.message ++ ")"

def SchedulePattern.parse (text : String) : Except PatternError SchedulePattern :=
  let text := Text.trim text
  if text.isEmpty then .error .empty
  else
    match Cron.parse text with
    | .ok c => .ok (.cron c)
    | .error cronError =>
      match Interval.parse text with
      | .ok i => if i.seconds == 0 then .error .noTime else .ok (.interval i)
      | .error intervalError => .error (.neither text cronError intervalError)

end SensorTasks

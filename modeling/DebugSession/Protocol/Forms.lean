import DebugSession.Protocol.Arguments
import DebugSession.Protocol.Message
import DebugSession.Protocol.Results
/-!
All that is sent between a client and a session, by name.
-/

namespace DebugSession.Protocol

/-- Messages, the arguments of requests, what answers hold, what all of these are about, and what a
client is told without having asked. -/
def forms : List (String × Json.Form) :=
  [("RequestMessage", ⟨RequestMessage⟩), ("ResponseMessage", ⟨ResponseMessage⟩),
    ("EventMessage", ⟨EventMessage⟩), ("InitializeArguments", ⟨InitializeArguments⟩),
    ("SetBreakpointsArguments", ⟨SetBreakpointsArguments⟩),
    ("SetExceptionBreakpointsArguments", ⟨SetExceptionBreakpointsArguments⟩),
    ("DataBreakpointInfoArguments", ⟨DataBreakpointInfoArguments⟩),
    ("SetDataBreakpointsArguments", ⟨SetDataBreakpointsArguments⟩),
    ("ContinueArguments", ⟨ContinueArguments⟩), ("StepArguments", ⟨StepArguments⟩),
    ("PauseArguments", ⟨PauseArguments⟩), ("StackTraceArguments", ⟨StackTraceArguments⟩),
    ("ScopesArguments", ⟨ScopesArguments⟩), ("VariablesArguments", ⟨VariablesArguments⟩),
    ("SetVariableArguments", ⟨SetVariableArguments⟩), ("EvaluateArguments", ⟨EvaluateArguments⟩),
    ("StackFrameArguments", ⟨StackFrameArguments⟩), ("ThreadArguments", ⟨ThreadArguments⟩),
    ("DisconnectArguments", ⟨DisconnectArguments⟩), ("Capabilities", ⟨Capabilities⟩),
    ("ExceptionBreakpointsFilter", ⟨ExceptionBreakpointsFilter⟩),
    ("SetBreakpointsResponseBody", ⟨SetBreakpointsResponseBody⟩),
    ("DataBreakpointInfoResponseBody", ⟨DataBreakpointInfoResponseBody⟩),
    ("StackTraceResponseBody", ⟨StackTraceResponseBody⟩),
    ("ThreadsResponseBody", ⟨ThreadsResponseBody⟩), ("ScopesResponseBody", ⟨ScopesResponseBody⟩),
    ("VariablesResponseBody", ⟨VariablesResponseBody⟩),
    ("SetVariableResponseBody", ⟨SetVariableResponseBody⟩),
    ("EvaluateResponseBody", ⟨EvaluateResponseBody⟩),
    ("ContinueResponseBody", ⟨ContinueResponseBody⟩),
    ("ExceptionInfoResponseBody", ⟨ExceptionInfoResponseBody⟩), ("Source", ⟨Source⟩),
    ("SourceBreakpoint", ⟨SourceBreakpoint⟩), ("DataBreakpoint", ⟨DataBreakpoint⟩),
    ("Breakpoint", ⟨Breakpoint⟩), ("StackFrame", ⟨StackFrame⟩), ("Thread", ⟨Thread⟩),
    ("Scope", ⟨Scope⟩), ("Variable", ⟨Variable⟩), ("StoppedEventBody", ⟨StoppedEventBody⟩),
    ("OutputEventBody", ⟨OutputEventBody⟩), ("ThreadEventBody", ⟨ThreadEventBody⟩),
    ("ContinuedEventBody", ⟨ContinuedEventBody⟩), ("ExitedEventBody", ⟨ExitedEventBody⟩)]

end DebugSession.Protocol

import GridRobot.App
import GridRobot.CommandLine
import GridRobot.CommandLine.Arguments
import GridRobot.CommandLine.Console
import GridRobot.CommandLine.Script
import GridRobot.Decimal.Binary64
import GridRobot.Decimal.Shortest
import GridRobot.Directory
import GridRobot.Document
import GridRobot.Engine
import GridRobot.Failure
import GridRobot.Heading
import GridRobot.Instruction
import GridRobot.Json.Number
import GridRobot.Json.Problem
import GridRobot.Json.Reader
import GridRobot.Json.Record
import GridRobot.Json.Shape
import GridRobot.Json.Skip
import GridRobot.Json.Text
import GridRobot.Json.Token
import GridRobot.Json.Value
import GridRobot.Keyboard
import GridRobot.Keyboard.Hints
import GridRobot.Log
import GridRobot.Log.Filter
import GridRobot.Log.Messages
import GridRobot.Log.Pattern
import GridRobot.Log.Pattern.Atom
import GridRobot.Log.Pattern.Class
import GridRobot.Main
import GridRobot.Position
import GridRobot.Program
import GridRobot.Program.Expansion
import GridRobot.Program.Text
import GridRobot.Proofs.Accounting
import GridRobot.Proofs.Admission
import GridRobot.Proofs.Appending
import GridRobot.Proofs.Board
import GridRobot.Proofs.Deadlines
import GridRobot.Proofs.Directory
import GridRobot.Proofs.Documents
import GridRobot.Proofs.Drawing
import GridRobot.Proofs.Encoding
import GridRobot.Proofs.Expansion
import GridRobot.Proofs.Exporting
import GridRobot.Proofs.Flattening
import GridRobot.Proofs.Frames
import GridRobot.Proofs.Gate
import GridRobot.Proofs.Headless
import GridRobot.Proofs.Json.Grammar
import GridRobot.Proofs.Json.Reading
import GridRobot.Proofs.Json.Records
import GridRobot.Proofs.Json.Skipping
import GridRobot.Proofs.Json.Spelling
import GridRobot.Proofs.Json.Taking
import GridRobot.Proofs.Json.Tokens
import GridRobot.Proofs.Json.Writing
import GridRobot.Proofs.Keyboard
import GridRobot.Proofs.Loading
import GridRobot.Proofs.Overflow
import GridRobot.Proofs.Pacing
import GridRobot.Proofs.Playback
import GridRobot.Proofs.Popup
import GridRobot.Proofs.Position
import GridRobot.Proofs.ProgramCodec
import GridRobot.Proofs.ProgramText
import GridRobot.Proofs.Quitting
import GridRobot.Proofs.Reckoning
import GridRobot.Proofs.Region
import GridRobot.Proofs.Restoring
import GridRobot.Proofs.Run
import GridRobot.Proofs.Scheduler
import GridRobot.Proofs.Scripts
import GridRobot.Proofs.Session
import GridRobot.Proofs.Settings
import GridRobot.Proofs.Showing
import GridRobot.Proofs.Stepping
import GridRobot.Proofs.Storage
import GridRobot.Proofs.Succession
import GridRobot.Proofs.Ticks
import GridRobot.Proofs.Track
import GridRobot.Proofs.TrackFile
import GridRobot.Proofs.Upkeep
import GridRobot.Proofs.Views
import GridRobot.Proofs.Walk
import GridRobot.Proofs.Words
import GridRobot.Robot
import GridRobot.Screen
import GridRobot.Screen.Line
import GridRobot.Screen.Palette
import GridRobot.Screen.Picture
import GridRobot.Screen.Rect
import GridRobot.Session
import GridRobot.Session.Play
import GridRobot.Settings
import GridRobot.Text.Alphanumeric
import GridRobot.Text.Blank
import GridRobot.Text.Cluster
import GridRobot.Text.Emoji
import GridRobot.Text.Hex
import GridRobot.Text.Joint
import GridRobot.Text.Pieces
import GridRobot.Text.Place
import GridRobot.Text.Printable
import GridRobot.Text.Quoted
import GridRobot.Text.Ranges
import GridRobot.Text.Width
import GridRobot.Timing
import GridRobot.Track
import GridRobot.Track.Presets
import GridRobot.Track.Source
import GridRobot.TrackFile

import CurieBle.Basic
import CurieBle.Dispatcher
import CurieBle.Program
import CurieBle.System
import CurieBle.Steps
import CurieBle.Session
import CurieBle.Correlation
import CurieBle.OutParam
import CurieBle.Advertising
import CurieBle.Deadline
import CurieBle.Init
import CurieBle.Registry
import CurieBle.Matching
import CurieBle.Progress
import CurieBle.Service

import ExtractLevel.Basic
import ExtractLevel.Data
import ExtractLevel.BspFile
import ExtractLevel.Textures
import ExtractLevel.DrawableTrees
import ExtractLevel.Level
import ExtractLevel.ThreadPool
import ExtractLevel.Contents
import ExtractLevel.Views
import ExtractLevel.Rounds
import ExtractLevel.AllLevels
import ExtractLevel.Outcomes
